import NoteChart.Text.Japanese.Kanji208

/-!
Shift_JIS as read on the web. Single bytes are ASCII, U+0080 and half-width katakana; two bytes
are a pointer into JIS X 0208, whose pointers 8836 to 10715 are private use. A failed second byte
that is ASCII is read again as a character of its own.
-/
namespace NoteChart.Text.Japanese.ShiftJis

def isLead (b : UInt8) : Bool := (0x81 ≤ b && b ≤ 0x9F) || (0xE0 ≤ b && b ≤ 0xFC)

def isTrail (b : UInt8) : Bool := (0x40 ≤ b && b ≤ 0x7E) || (0x80 ≤ b && b ≤ 0xFC)

def pointer (lead trail : UInt8) : Nat :=
  (lead.toNat - (if lead < 0xA0 then 0x81 else 0xC1)) * 188 +
    (trail.toNat - (if trail < 0x7F then 0x40 else 0x41))

def pairChar? (lead trail : UInt8) : Option Char :=
  if isTrail trail then
    let p := pointer lead trail
    if 8836 ≤ p && p ≤ 10715 then some (Char.ofNat (0xE000 + (p - 8836))) else Kanji208.char? p
  else none

def decode : List UInt8 → List (Option Char)
  | [] => []
  | a :: r =>
    if a ≤ 0x80 then some (Char.ofNat a.toNat) :: decode r
    else if 0xA1 ≤ a && a ≤ 0xDF then some (Char.ofNat (0xFF61 + (a.toNat - 0xA1))) :: decode r
    else if isLead a then
      match r with
      | [] => [none]
      | b :: r₁ =>
        match pairChar? a b with
        | some c => some c :: decode r₁
        | none => if b < 0x80 then none :: decode (b :: r₁) else none :: decode r₁
    else none :: decode r

end NoteChart.Text.Japanese.ShiftJis
