import NoteChart.Chart

/-!
Figures about the tempo of a chart: the least, the greatest, and the one held longest, where the
times at which one tempo is held are added up and the tempo that came first wins a tie.
-/
namespace NoteChart

def tempos (initial : Float) (changes : List TempoChange) : List Float :=
  initial :: changes.map TempoChange.bpm

def leastTempo (tempos : List Float) : Float := tempos.foldl Binary64.smaller Binary64.infinity
def greatestTempo (tempos : List Float) : Float :=
  tempos.foldl Binary64.larger Binary64.negInfinity

structure Holding where
  bpm : Float
  span : Float
deriving DecidableEq, Repr

/-- Each tempo from its start to the next change or the end; time does not run backwards. -/
def holdings (start bpm : Float) (changes : List TempoChange) (finish : Float) : List Holding :=
  match changes with
  | [] => [⟨bpm, Binary64.larger (finish - start) 0.0⟩]
  | next :: rest =>
    ⟨bpm, Binary64.larger (next.time - start) 0.0⟩ :: holdings next.time next.bpm rest finish

def addHolding (holding : Holding) : List Holding → List Holding
  | [] => [holding]
  | entry :: rest =>
    if entry.bpm == holding.bpm then { entry with span := entry.span + holding.span } :: rest
    else entry :: addHolding holding rest

/-- The first entry with the greatest span. -/
def longest (best : Holding) : List Holding → Holding
  | [] => best
  | entry :: rest => longest (if best.span < entry.span then entry else best) rest

def mainTempo (initial : Float) (changes : List TempoChange) (duration : Float) : Float :=
  let totals := (holdings 0.0 initial changes duration).foldl (fun t h => addHolding h t) []
  (longest ⟨initial, Binary64.negInfinity⟩ totals).bpm

end NoteChart
