/-!
Lanes: each of the two sides of the controller has a turntable and keys. Chart channels exist for
keys 1 to 7; other key numbers can come only from a chart that was not read from text.
-/
namespace NoteChart

inductive Side where
  | p1
  | p2
deriving DecidableEq, Repr

inductive Role where
  | scratch
  | key (number : UInt8)
deriving DecidableEq, Repr

structure Lane where
  side : Side
  role : Role
deriving DecidableEq, Repr

namespace Lane

def scratch (side : Side) : Lane := ⟨side, .scratch⟩
def key (side : Side) (number : UInt8) : Lane := ⟨side, .key number⟩

def isScratch (lane : Lane) : Bool := lane.role = .scratch

/-- The channel a lane is written on. Keys 6 and 7 come after the turntable and the free zone. -/
def channel (lane : Lane) : UInt16 :=
  let base : UInt16 := match lane.side with
    | .p1 => 0x10
    | .p2 => 0x20
  let offset : UInt16 := match lane.role with
    | .scratch => 6
    | .key k => if 1 ≤ k && k ≤ 5 then k.toUInt16 else k.toUInt16 + 2
  base + offset

/-- Lanes from left to right: the first side before the second, the turntable before the keys. -/
def rank (lane : Lane) : Nat :=
  (match lane.side with
    | .p1 => 0
    | .p2 => 257) +
  (match lane.role with
    | .scratch => 0
    | .key k => k.toNat + 1)

def precedes (a b : Lane) : Bool := decide (a.rank ≤ b.rank)

def label (lane : Lane) : String :=
  let side := match lane.side with
    | .p1 => "1P"
    | .p2 => "2P"
  match lane.role with
  | .scratch => s!"{side} SC"
  | .key k => s!"{side} K{k.toNat}"

def all : List Lane :=
  [Side.p1, Side.p2].flatMap fun side =>
    scratch side :: [1, 2, 3, 4, 5, 6, 7].map (key side)

end Lane
end NoteChart
