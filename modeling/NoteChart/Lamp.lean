import NoteChart.Gauge.Ladder
import NoteChart.Score

/-!
Clear lamps, from nothing played to the best judgment on every note. A play without a miss has a
lamp of its own, whatever its gauge; otherwise the strictest gauge that was cleared gives the lamp.
-/
namespace NoteChart

inductive Lamp where
  | noPlay
  | failed
  | assistEasy
  | easy
  | normal
  | hard
  | exHard
  | hazard
  | fullCombo
  | perfect
  | max
deriving DecidableEq, Repr

namespace Lamp

def rank : Lamp → Nat
  | .noPlay => 0
  | .failed => 1
  | .assistEasy => 2
  | .easy => 3
  | .normal => 4
  | .hard => 5
  | .exHard => 6
  | .hazard => 7
  | .fullCombo => 8
  | .perfect => 9
  | .max => 10

instance : LE Lamp := ⟨fun a b => a.rank ≤ b.rank⟩
instance (a b : Lamp) : Decidable (a ≤ b) := inferInstanceAs (Decidable (a.rank ≤ b.rank))

def ofGauge : GaugeKind → Lamp
  | .assist => .assistEasy
  | .easy => .easy
  | .groove => .normal
  | .hard => .hard
  | .exHard => .exHard
  | .hazard => .hazard

/-- The lamp of a play over so many notes, which are counted as a 32-bit word; `candidates` are
the kinds of gauge whose clear counts. -/
def classify (score : Score) (noteCount : Nat) (ladder : GaugeLadder)
    (candidates : List GaugeKind) (failed : Bool) : Lamp :=
  let c := score.counts
  let n := UInt32.ofNat noteCount
  if failed then .failed
  else if noteCount = 0 then .noPlay
  else if c.pgreat = n then .max
  else if c.pgreat + c.great = n then .perfect
  else if c.pgreat + c.great + c.good = n then .fullCombo
  else
    match GaugeKind.strictest? (candidates.filter fun kind => (ladder.gauge kind).isQualified) with
    | some kind => ofGauge kind
    | none => .failed

end Lamp
end NoteChart
