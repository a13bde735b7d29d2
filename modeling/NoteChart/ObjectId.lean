/-!
Names of chart objects. Sounds, images, tempos and stops are named by two base-36 digits in either
case, which is the number of the object.
-/
namespace NoteChart

structure ObjectId where
  number : UInt16
deriving DecidableEq, Repr

namespace ObjectId

def digit? (c : Char) : Option Nat :=
  if '0' ≤ c && c ≤ '9' then some (c.toNat - '0'.toNat)
  else if 'A' ≤ c && c ≤ 'Z' then some (c.toNat - 'A'.toNat + 10)
  else if 'a' ≤ c && c ≤ 'z' then some (c.toNat - 'a'.toNat + 10)
  else none

def ofChars? : List Char → Option ObjectId
  | [high, low] => do
    let h ← digit? high
    let l ← digit? low
    return ⟨.ofNat (h * 36 + l)⟩
  | _ => none

def ofString? (text : String) : Option ObjectId := ofChars? text.toList

def digitChar (n : Nat) : Char :=
  if n < 10 then Char.ofNat ('0'.toNat + n) else Char.ofNat ('A'.toNat + (n - 10))

/-- The last two base-36 digits, in upper case; every object with a name has no more. -/
def name (id : ObjectId) : String :=
  let n := id.number.toNat
  String.ofList [digitChar (n / 36 % 36), digitChar (n % 36)]

end ObjectId
end NoteChart
