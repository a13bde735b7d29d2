import NoteChart.Text.Japanese.Kanji208
import NoteChart.Text.Japanese.Kanji212

/-!
EUC-JP as read on the web. 0x8E comes before a half-width katakana, 0x8F before the two bytes of a
JIS X 0212 character, and two bytes from 0xA1 on are a JIS X 0208 character. A failed last byte
that is ASCII is read again as a character of its own.
-/
namespace NoteChart.Text.Japanese.EucJp

def isHigh (b : UInt8) : Bool := 0xA1 ≤ b && b ≤ 0xFE

def pointer (lead trail : UInt8) : Nat := (lead.toNat - 0xA1) * 94 + (trail.toNat - 0xA1)

def pairChar? (set : Nat → Option Char) (lead trail : UInt8) : Option Char :=
  if isHigh lead && isHigh trail then set (pointer lead trail) else none

def decode : List UInt8 → List (Option Char)
  | [] => []
  | a :: r =>
    if a < 0x80 then some (Char.ofNat a.toNat) :: decode r
    else if a = 0x8E || a = 0x8F || isHigh a then
      match r with
      | [] => [none]
      | b :: r₁ =>
        if a = 0x8E && 0xA1 ≤ b && b ≤ 0xDF then
          some (Char.ofNat (0xFF61 + (b.toNat - 0xA1))) :: decode r₁
        else if a = 0x8F && isHigh b then
          match r₁ with
          | [] => [none]
          | c :: r₂ =>
            match pairChar? Kanji212.char? b c with
            | some k => some k :: decode r₂
            | none => if c < 0x80 then none :: decode (c :: r₂) else none :: decode r₂
        else
          match pairChar? Kanji208.char? a b with
          | some k => some k :: decode r₁
          | none => if b < 0x80 then none :: decode (b :: r₁) else none :: decode r₁
    else none :: decode r

end NoteChart.Text.Japanese.EucJp
