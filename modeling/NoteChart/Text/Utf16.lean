/-!
UTF-16 in either byte order. A surrogate without its partner is an error, and so is a byte left
over at the end; a surrogate that the end of the text cuts off takes the left over byte with it.
-/
namespace NoteChart.Text.Utf16

inductive ByteOrder where
  | little
  | big

def join (order : ByteOrder) (a b : UInt8) : Nat :=
  match order with
  | .little => b.toNat * 256 + a.toNat
  | .big => a.toNat * 256 + b.toNat

def isHigh (unit : Nat) : Bool := 0xD800 ≤ unit && unit ≤ 0xDBFF
def isLow (unit : Nat) : Bool := 0xDC00 ≤ unit && unit ≤ 0xDFFF

def pair (high low : Nat) : Char :=
  Char.ofNat (0x10000 + (high - 0xD800) * 0x400 + (low - 0xDC00))

def units (order : ByteOrder) : List UInt8 → List Nat × Bool
  | [] => ([], false)
  | [_] => ([], true)
  | a :: b :: rest =>
    let (us, odd) := units order rest
    (join order a b :: us, odd)

/-- The characters of a sequence of units, with `none` for each error; `odd` tells of a byte
left over after it. -/
def decodeUnits (odd : Bool) : List Nat → List (Option Char)
  | [] => if odd then [none] else []
  | u :: rest =>
    if isHigh u then
      match rest with
      | [] => [none]
      | v :: others =>
        if isLow v then some (pair u v) :: decodeUnits odd others
        else none :: decodeUnits odd (v :: others)
    else if isLow u then none :: decodeUnits odd rest
    else some (Char.ofNat u) :: decodeUnits odd rest

def decode (order : ByteOrder) (bytes : List UInt8) : List (Option Char) :=
  let (us, odd) := units order bytes
  decodeUnits odd us

end NoteChart.Text.Utf16
