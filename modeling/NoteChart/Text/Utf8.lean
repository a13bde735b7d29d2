/-!
UTF-8. A sequence outside the table of well-formed sequences is an error, and an error takes the
longest run of bytes that begins some well-formed sequence, or one byte if there is none.
-/
namespace NoteChart.Text.Utf8

def encode (cs : List Char) : List UInt8 := cs.flatMap String.utf8EncodeChar

def isTail (b : UInt8) : Bool := 0x80 ≤ b && b ≤ 0xBF

def second3 (lead b : UInt8) : Bool :=
  (if lead = 0xE0 then 0xA0 else 0x80) ≤ b && b ≤ (if lead = 0xED then 0x9F else 0xBF)

def second4 (lead b : UInt8) : Bool :=
  (if lead = 0xF0 then 0x90 else 0x80) ≤ b && b ≤ (if lead = 0xF4 then 0x8F else 0xBF)

def payload (b : UInt8) : Nat := (b &&& 0x3F).toNat

def join2 (a b : UInt8) : Char := Char.ofNat ((a &&& 0x1F).toNat * 64 + payload b)

def join3 (a b c : UInt8) : Char :=
  Char.ofNat (((a &&& 0x0F).toNat * 64 + payload b) * 64 + payload c)

def join4 (a b c d : UInt8) : Char :=
  Char.ofNat ((((a &&& 0x07).toNat * 64 + payload b) * 64 + payload c) * 64 + payload d)

/-- The characters of a byte sequence, with `none` for each error. -/
def decode : List UInt8 → List (Option Char)
  | [] => []
  | a :: r =>
    if a < 0x80 then some (Char.ofNat a.toNat) :: decode r
    else if 0xC2 ≤ a && a ≤ 0xDF then
      match r with
      | b :: r₁ => if isTail b then some (join2 a b) :: decode r₁ else none :: decode (b :: r₁)
      | [] => [none]
    else if 0xE0 ≤ a && a ≤ 0xEF then
      match r with
      | b :: r₁ =>
        if second3 a b then
          match r₁ with
          | c :: r₂ =>
            if isTail c then some (join3 a b c) :: decode r₂ else none :: decode (c :: r₂)
          | [] => [none]
        else none :: decode (b :: r₁)
      | [] => [none]
    else if 0xF0 ≤ a && a ≤ 0xF4 then
      match r with
      | b :: r₁ =>
        if second4 a b then
          match r₁ with
          | c :: r₂ =>
            if isTail c then
              match r₂ with
              | d :: r₃ =>
                if isTail d then some (join4 a b c d) :: decode r₃ else none :: decode (d :: r₃)
              | [] => [none]
            else none :: decode (c :: r₂)
          | [] => [none]
        else none :: decode (b :: r₁)
      | [] => [none]
    else none :: decode r

end NoteChart.Text.Utf8
