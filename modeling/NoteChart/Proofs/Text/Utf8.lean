import NoteChart.Text.Utf8
import Mathlib.Algebra.Group.Nat.Defs
import Mathlib.Tactic.SplitIfs

/-!
UTF-8 read back. The number of a character is written in base 64, the first digit in a lead byte that
tells how many there are and the others in tail bytes. What makes a sequence well-formed is that its
number is that of a character which needs no fewer bytes: so whatever is written is read as it was.
-/
namespace NoteChart.Text.Utf8

theorem toNat_byte {n : Nat} (small : n < 256) : (UInt8.ofNat n).toNat = n :=
  UInt8.toNat_ofNat_of_lt' small

theorem low_bits (b : UInt8) {mask : UInt8} {k : Nat} (full : mask.toNat = 2 ^ k - 1) :
    (b &&& mask).toNat = b.toNat % 2 ^ k := by
  rw [UInt8.toNat_and, full, Nat.and_two_pow_sub_one_eq_mod]

theorem payload_eq (b : UInt8) : payload b = b.toNat % 64 := low_bits b (k := 6) rfl

theorem join2_eq (a b : UInt8) : join2 a b = Char.ofNat (a.toNat % 32 * 64 + b.toNat % 64) := by
  have lead : (a &&& 0x1F).toNat = a.toNat % 32 := low_bits a (k := 5) rfl
  rw [join2, lead, payload_eq]

theorem join3_eq (a b c : UInt8) :
    join3 a b c = Char.ofNat ((a.toNat % 16 * 64 + b.toNat % 64) * 64 + c.toNat % 64) := by
  have lead : (a &&& 0x0F).toNat = a.toNat % 16 := low_bits a (k := 4) rfl
  rw [join3, lead, payload_eq, payload_eq]

theorem join4_eq (a b c d : UInt8) : join4 a b c d =
    Char.ofNat (((a.toNat % 8 * 64 + b.toNat % 64) * 64 + c.toNat % 64) * 64 + d.toNat % 64) := by
  have lead : (a &&& 0x07).toNat = a.toNat % 8 := low_bits a (k := 3) rfl
  rw [join4, lead, payload_eq, payload_eq, payload_eq]

theorem isTail_iff {b : UInt8} : isTail b = true ↔ 0x80 ≤ b.toNat ∧ b.toNat ≤ 0xBF := by
  simp [isTail, UInt8.le_iff_toNat_le]

theorem second3_iff {a b : UInt8} : second3 a b = true ↔
    (0x80 ≤ b.toNat ∧ b.toNat ≤ 0xBF) ∧ (a.toNat = 0xE0 → 0xA0 ≤ b.toNat) ∧
      (a.toNat = 0xED → b.toNat ≤ 0x9F) := by
  simp only [second3, Bool.and_eq_true, decide_eq_true_eq, UInt8.le_iff_toNat_le,
    ← UInt8.toNat_inj]
  split_ifs <;> simp_all <;> omega

theorem second4_iff {a b : UInt8} : second4 a b = true ↔
    (0x80 ≤ b.toNat ∧ b.toNat ≤ 0xBF) ∧ (a.toNat = 0xF0 → 0x90 ≤ b.toNat) ∧
      (a.toNat = 0xF4 → b.toNat ≤ 0x8F) := by
  simp only [second4, Bool.and_eq_true, decide_eq_true_eq, UInt8.le_iff_toNat_le,
    ← UInt8.toNat_inj]
  split_ifs <;> simp_all <;> omega

variable {a b c d : UInt8}

theorem decode_one (lead : a.toNat < 0x80) (rest : List UInt8) :
    decode (a :: rest) = some (Char.ofNat a.toNat) :: decode rest := by
  rw [decode.eq_def]
  simp [UInt8.lt_iff_toNat_lt, lead]

theorem decode_two (lead : 0xC2 ≤ a.toNat ∧ a.toNat ≤ 0xDF) (tail : isTail b = true)
    (rest : List UInt8) : decode (a :: b :: rest) = some (join2 a b) :: decode rest := by
  have past : ¬a.toNat < 128 := by omega
  rw [decode.eq_def]
  simp [UInt8.lt_iff_toNat_lt, UInt8.le_iff_toNat_le, past, lead, tail]

theorem decode_three (lead : 0xE0 ≤ a.toNat ∧ a.toNat ≤ 0xEF) (second : second3 a b = true)
    (tail : isTail c = true) (rest : List UInt8) :
    decode (a :: b :: c :: rest) = some (join3 a b c) :: decode rest := by
  have past : ¬a.toNat < 128 ∧ ¬a.toNat ≤ 223 := by omega
  rw [decode.eq_def]
  simp [UInt8.lt_iff_toNat_lt, UInt8.le_iff_toNat_le, past, lead, second, tail]

theorem decode_four (lead : 0xF0 ≤ a.toNat ∧ a.toNat ≤ 0xF4) (second : second4 a b = true)
    (tail : isTail c = true) (last : isTail d = true) (rest : List UInt8) :
    decode (a :: b :: c :: d :: rest) = some (join4 a b c d) :: decode rest := by
  have past : ¬a.toNat < 128 ∧ ¬a.toNat ≤ 223 ∧ ¬a.toNat ≤ 239 := by omega
  rw [decode.eq_def]
  simp [UInt8.lt_iff_toNat_lt, UInt8.le_iff_toNat_le, past, lead, second, tail, last]

theorem toNat_scalar (c : Char) : c.toNat < 0xD800 ∨ 0xDFFF < c.toNat ∧ c.toNat < 0x110000 :=
  c.valid

theorem decode_encodeChar (c : Char) (rest : List UInt8) :
    decode (String.utf8EncodeChar c ++ rest) = some c :: decode rest := by
  have scalar := toNat_scalar c
  have whole : Char.ofNat c.toNat = c := Char.ofNat_toNat c
  unfold String.utf8EncodeChar
  rw [Char.toNat_val]
  generalize c.toNat = n at scalar whole
  dsimp only
  split_ifs with one two three
  · change decode (.ofNat n :: rest) = _
    have lead := toNat_byte (n := n) (by omega)
    rw [decode_one (by omega), lead, whole]
  · change decode (.ofNat (n / 64 % 32 + 192) :: .ofNat (n % 64 + 128) :: rest) = _
    have lead := toNat_byte (n := n / 64 % 32 + 192) (by omega)
    have tail := toNat_byte (n := n % 64 + 128) (by omega)
    have digits : (n / 64 % 32 + 192) % 32 * 64 + (n % 64 + 128) % 64 = n := by omega
    rw [decode_two (by omega) (isTail_iff.mpr (by omega)), join2_eq, lead, tail, digits, whole]
  · change decode (.ofNat (n / 4096 % 16 + 224) :: .ofNat (n / 64 % 64 + 128) ::
      .ofNat (n % 64 + 128) :: rest) = _
    have lead := toNat_byte (n := n / 4096 % 16 + 224) (by omega)
    have second := toNat_byte (n := n / 64 % 64 + 128) (by omega)
    have tail := toNat_byte (n := n % 64 + 128) (by omega)
    have digits : ((n / 4096 % 16 + 224) % 16 * 64 + (n / 64 % 64 + 128) % 64) * 64 +
        (n % 64 + 128) % 64 = n := by omega
    rw [decode_three (by omega) (second3_iff.mpr (by omega)) (isTail_iff.mpr (by omega)), join3_eq,
      lead, second, tail, digits, whole]
  · change decode (.ofNat (n / 262144 % 8 + 240) :: .ofNat (n / 4096 % 64 + 128) ::
      .ofNat (n / 64 % 64 + 128) :: .ofNat (n % 64 + 128) :: rest) = _
    have lead := toNat_byte (n := n / 262144 % 8 + 240) (by omega)
    have second := toNat_byte (n := n / 4096 % 64 + 128) (by omega)
    have third := toNat_byte (n := n / 64 % 64 + 128) (by omega)
    have tail := toNat_byte (n := n % 64 + 128) (by omega)
    have digits : (((n / 262144 % 8 + 240) % 8 * 64 + (n / 4096 % 64 + 128) % 64) * 64 +
        (n / 64 % 64 + 128) % 64) * 64 + (n % 64 + 128) % 64 = n := by omega
    rw [decode_four (by omega) (second4_iff.mpr (by omega)) (isTail_iff.mpr (by omega))
      (isTail_iff.mpr (by omega)), join4_eq, lead, second, third, tail, digits, whole]

theorem decode_encode (text : List Char) : decode (encode text) = text.map some := by
  induction text with
  | nil => rfl
  | cons c rest ih =>
    change decode (String.utf8EncodeChar c ++ encode rest) = _
    rw [decode_encodeChar, ih, List.map_cons]

end NoteChart.Text.Utf8
