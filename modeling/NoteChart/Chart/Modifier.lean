import NoteChart.Chart
import NoteChart.Random.ChaCha
import NoteChart.Random.Shuffle

/-!
Lane modifiers. Before play the keys 1 to 7 of each side can be put into another order; the
turntable and keys of other numbers stay where they are, and so do all times.
-/
namespace NoteChart

inductive LaneModifier where
  | identity
  | mirror
  | random (seed : UInt64)
deriving DecidableEq, Repr

structure KeyOrder where
  p1 : List UInt8
  p2 : List UInt8
deriving DecidableEq, Repr

namespace LaneModifier

def keys : List UInt8 := [1, 2, 3, 4, 5, 6, 7]

/-- Orders both sides from one stream of words, the first side first. -/
def shuffled (words : Nat → UInt32) : KeyOrder :=
  let (p1, place) := Random.shuffle words keys 0
  let (p2, _) := Random.shuffle words keys place
  { p1, p2 }

def order : LaneModifier → KeyOrder
  | .identity => ⟨keys, keys⟩
  | .mirror => ⟨keys.reverse, keys.reverse⟩
  | .random seed => shuffled (Random.stream seed)

end LaneModifier

namespace KeyOrder

def side (order : KeyOrder) : Side → List UInt8
  | .p1 => order.p1
  | .p2 => order.p2

def move? (order : KeyOrder) (lane : Lane) : Option Lane :=
  match lane.role with
  | .scratch => none
  | .key k => if k = 0 then none else ((order.side lane.side)[k.toNat - 1]?).map (Lane.key lane.side)

end KeyOrder

/-- A note on a lane that is moved is written on the channel of its new lane. -/
def Note.move (order : KeyOrder) (note : Note) : Note :=
  match order.move? note.lane with
  | some lane => { note with lane, channel := lane.channel }
  | none => note

def Chart.modify (chart : Chart) (modifier : LaneModifier) : Chart :=
  if modifier = .identity then chart
  else { chart with notes := chart.notes.map (Note.move modifier.order) }

end NoteChart
