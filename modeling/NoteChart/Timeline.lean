import NoteChart.Chart
import NoteChart.Measure

/-!
From measures to milliseconds. A clock with the current tempo goes through the measures from cell
to cell. Each cell is placed at the time the clock shows; a tempo change takes effect there, and a
stop moves the clock on before anything that follows. Names without a definition are passed over.
-/
namespace NoteChart

/-- No tempo is slower than this when time is measured with it. -/
def tempoFloor : Float := 1e-3

/-- Stops are counted in 192nds of four beats. -/
def ticksPerMeasure : Float := 192.0

def beatSpan (bpm : Float) : Float := 60000.0 / Binary64.larger bpm tempoFloor

def measureSpan (part length bpm : Float) : Float := part * 4.0 * length * beatSpan bpm

/-- The time a stop takes; a negative stop takes none. -/
def stopSpan (ticks bpm : Float) : Float :=
  Binary64.larger ticks 0.0 / ticksPerMeasure * 4.0 * beatSpan bpm

structure Clock where
  time : Float
  bpm : Float
deriving DecidableEq, Repr

inductive Event where
  | note (note : Note)
  | sound (sound : Sound)
  | picture (picture : Picture)
  | tempo (change : TempoChange)
  | freeze (freeze : Freeze)
deriving DecidableEq, Repr

namespace Event

def note? : Event → Option Note
  | .note n => some n
  | _ => none

def sound? : Event → Option Sound
  | .sound s => some s
  | _ => none

def picture? : Event → Option Picture
  | .picture p => some p
  | _ => none

def tempo? : Event → Option TempoChange
  | .tempo c => some c
  | _ => none

def freeze? : Event → Option Freeze
  | .freeze f => some f
  | _ => none

end Event

namespace Clock

def pass (clock : Clock) (span : Float) : Clock := { clock with time := clock.time + span }

def changeTempo (clock : Clock) (bpm : Float) : Clock := { clock with bpm }

end Clock

def Cell.place (source : Source) (cell : Cell) (clock : Clock) : List Event × Clock :=
  let id : ObjectId := ⟨cell.value⟩
  match cell.content with
  | .note lane => ([.note ⟨clock.time, cell.channel, lane, id⟩], clock)
  | .sound => ([.sound ⟨clock.time, id⟩], clock)
  | .image layer => ([.picture ⟨clock.time, layer, id⟩], clock)
  | .tempoValue =>
    let bpm := Float.ofNat cell.value.toNat
    ([.tempo ⟨clock.time, bpm⟩], clock.changeTempo bpm)
  | .tempoName =>
    match source.tempo? id with
    | some bpm => ([.tempo ⟨clock.time, bpm⟩], clock.changeTempo bpm)
    | none => ([], clock)
  | .stopName =>
    match source.stop? id with
    | some ticks =>
      let span := stopSpan ticks clock.bpm
      ([.freeze ⟨clock.time, span⟩], clock.pass span)
    | none => ([], clock)
  | .measureLength | .nothing => ([], clock)

/-- Goes from `position` through the given cells to the end of the measure. -/
def walkCells (source : Source) (length : Float) :
    List Cell → Float → Clock → List Event × Clock
  | [], position, clock => ([], clock.pass (measureSpan (1.0 - position) length clock.bpm))
  | cell :: rest, position, clock =>
    let arrived := clock.pass (measureSpan (cell.position - position) length clock.bpm)
    let (events, left) := cell.place source arrived
    let (later, final) := walkCells source length rest cell.position left
    (events ++ later, final)

def walkMeasure (source : Source) (measure : Nat) (clock : Clock) : List Event × Clock :=
  let rows := source.rows measure
  walkCells source (measureLength rows) (measureCells rows) 0.0 clock

def walkMeasures (source : Source) : List Nat → Clock → List Event × Clock
  | [], clock => ([], clock)
  | measure :: rest, clock =>
    let (events, left) := walkMeasure source measure clock
    let (later, final) := walkMeasures source rest left
    (events ++ later, final)

end NoteChart
