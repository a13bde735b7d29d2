import NoteChart.Lane

/-!
Channels. Two hexadecimal digits in front of a row say what its cells are: notes of a lane,
background sounds and images, tempo changes and stops, or the length of the measure.
-/
namespace NoteChart

inductive Layer where
  | base
  | poor
  | overlay
deriving DecidableEq, Repr

inductive Content where
  | sound
  | measureLength
  | tempoValue
  | tempoName
  | stopName
  | image (layer : Layer)
  | note (lane : Lane)
  | nothing
deriving DecidableEq, Repr

namespace Content

/-- The lane of a playable channel: 1x on the first side, 2x on the second. -/
def lane? (channel : UInt16) : Option Lane :=
  let side? := match channel / 16 with
    | 1 => some Side.p1
    | 2 => some Side.p2
    | _ => none
  let role? := match channel % 16 with
    | 1 => some (Role.key 1)
    | 2 => some (.key 2)
    | 3 => some (.key 3)
    | 4 => some (.key 4)
    | 5 => some (.key 5)
    | 6 => some .scratch
    | 8 => some (.key 6)
    | 9 => some (.key 7)
    | _ => none
  match side?, role? with
  | some side, some role => some ⟨side, role⟩
  | _, _ => none

def ofChannel (channel : UInt16) : Content :=
  match channel with
  | 0x01 => .sound
  | 0x02 => .measureLength
  | 0x03 => .tempoValue
  | 0x04 => .image .base
  | 0x06 => .image .poor
  | 0x07 => .image .overlay
  | 0x08 => .tempoName
  | 0x09 => .stopName
  | channel => match lane? channel with
    | some lane => .note lane
    | none => .nothing

def hasCells (content : Content) : Bool :=
  content ≠ .measureLength && content ≠ .nothing

/-- At one position tempo changes come first and stops last. -/
def tieClass : Content → Nat
  | .tempoValue | .tempoName => 0
  | .stopName => 2
  | _ => 1

end Content
end NoteChart
