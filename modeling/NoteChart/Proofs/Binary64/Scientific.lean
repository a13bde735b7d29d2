import NoteChart.Proofs.Binary64.Precision

/-!
Decimal numbers as doubles. A whole number of powers of ten becomes the double nearest to it,
whatever its size: past the range of doubles it becomes infinite, and far below the least of them
it becomes zero.
-/
namespace NoteChart.Binary64

open Float.Model Float.Model.UnpackedFloat

theorem nearest_past {x : ℝ} (past : reach ≤ x) : nearest x = ⊤ := by
  have still : roundReal reach = reach := by
    simpa [reach] using roundReal_of_digits 1 1024 (by decide) (by decide)
  have rounded : reach ≤ roundReal x := still ▸ roundReal_mono past
  rw [nearest_coe, confine, if_pos rounded]

theorem nearest_tiny {x : ℝ} (positive : 0 < x) (tiny : x ≤ 2 ^ (-1075 : ℤ)) : nearest x = 0 := by
  have half : x / 2 ^ (-1074 : ℤ) ≤ 1 / 2 := by
    rw [div_le_iff₀ (by positivity)]
    refine tiny.trans_eq ?_
    rw [show (-1075 : ℤ) = -1 + -1074 by rfl, zpow_add₀ (by norm_num), zpow_neg_one, one_div]
  have nonneg : 0 ≤ x / 2 ^ (-1074 : ℤ) := by positivity
  have zero : OnGrid 0 (-1074) := ⟨by decide, le_rfl, Or.inr rfl⟩
  have rounds : RoundsTo 0 (-1074) x := by
    refine ⟨?_, fun _ => rfl, fun full => by simp at full⟩
    rw [Nat.cast_zero, sub_zero, abs_of_nonneg nonneg]
    exact half
  rw [nearest_eq zero (by decide) (rounds.roundReal_eq positive zero)]
  simp [scaled]

theorem tens_value {e : Nat} (exact_power : e ≤ 22) :
    IsNumber (.ofNat (10 ^ e)) ∧ value (.ofNat (10 ^ e)) = ((10 ^ e : ℝ) : EReal) := by
  have fives : 5 ^ e < 2 ^ 53 := (Nat.pow_le_pow_right (by decide) exact_power).trans_lt (by decide)
  have grid : |((5 ^ e : ℕ) : ℤ)| < 2 ^ 53 := by
    rw [Nat.abs_cast]
    exact_mod_cast fives
  have power : (10 ^ e : ℝ) = ((5 ^ e : ℕ) : ℤ) * 2 ^ (e : ℤ) := by
    push_cast
    rw [zpow_natCast, ← mul_pow]
    norm_num
  have still : roundReal (10 ^ e) = 10 ^ e := by
    rw [power]
    exact roundReal_of_digits _ _ grid (by omega)
  have size : |(10 : ℝ) ^ e| < 2 ^ (88 : ℤ) := by
    rw [abs_of_nonneg (by positivity)]
    calc (10 : ℝ) ^ e ≤ 10 ^ 22 := pow_le_pow_right₀ (by norm_num) exact_power
      _ < 2 ^ (88 : ℤ) := by norm_num
  obtain ⟨number, rounded⟩ := ofNat_value (10 ^ e)
  rw [← EReal.coe_natCast, Nat.cast_pow, Nat.cast_ofNat, nearest_coe, still,
    confine_of_small size (by decide)] at rounded
  exact ⟨number, rounded⟩

theorem table_tens (e : Fin 23) :
    Float.exactlyRepresentablePowersOfTen[e] = Float.ofNat (10 ^ e.val) := by
  revert e
  decide +kernel

theorem zpow_le_zpow_of_nonpos {a b : ℝ} (positive : 0 < a) (below : a ≤ b) {e : Int}
    (low : e ≤ 0) : b ^ e ≤ a ^ e := by
  obtain ⟨k, rfl⟩ : ∃ k : ℕ, e = -k := ⟨e.natAbs, by omega⟩
  rw [zpow_neg, zpow_neg, zpow_natCast, zpow_natCast]
  exact inv_anti₀ (by positivity) (pow_le_pow_left₀ positive.le below k)

section Sizes

variable {m : Nat} (positive : 0 < m) {e : Int}
include positive

theorem stands_past (past : 2 ^ 11 < e) :
    Stands (UnpackedFloat.ofScientific Format.binary64 m e)
      (nearest ((m * 10 ^ e : ℝ) : EReal)) := by
  have digits : (1 : ℝ) ≤ m := by exact_mod_cast positive
  have word : UnpackedFloat.ofScientific Format.binary64 m e = .infinity .positive := by
    rw [UnpackedFloat.ofScientific, dif_neg positive.ne', if_pos past]
  have size : reach ≤ m * 10 ^ e := by
    calc reach = 2 ^ (1024 : ℤ) := rfl
      _ ≤ 2 ^ e := zpow_le_zpow_right₀ (by norm_num) (by omega)
      _ ≤ 10 ^ e := zpow_le_zpow_left₀ (by omega) (by norm_num) (by norm_num)
      _ ≤ m * 10 ^ e := le_mul_of_one_le_left (by positivity) digits
  rw [word, nearest_past size]
  exact stands_infinity .positive

theorem stands_tiny (below : e < -(2 ^ 11 + m.log2)) :
    Stands (UnpackedFloat.ofScientific Format.binary64 m e)
      (nearest ((m * 10 ^ e : ℝ) : EReal)) := by
  have inside : ¬e > 2 ^ Format.binary64.exponentBits := by
    change ¬e > 2 ^ 11
    omega
  have word : UnpackedFloat.ofScientific Format.binary64 m e = .zero .positive := by
    rw [UnpackedFloat.ofScientific, dif_neg positive.ne', if_neg inside, if_pos below]
  have size : (m : ℝ) * 10 ^ e ≤ 2 ^ (-1075 : ℤ) := by
    have upper : (m : ℝ) ≤ 2 ^ ((m.log2 : ℤ) + 1) := by exact_mod_cast Nat.lt_log2_self.le
    have smaller : (10 : ℝ) ^ e ≤ 2 ^ e :=
      zpow_le_zpow_of_nonpos (by norm_num) (by norm_num) (by omega)
    calc (m : ℝ) * 10 ^ e ≤ 2 ^ ((m.log2 : ℤ) + 1) * 2 ^ e := by gcongr
      _ = 2 ^ ((m.log2 : ℤ) + 1 + e) := (zpow_add₀ (by norm_num) _ _).symm
      _ ≤ 2 ^ (-1075 : ℤ) := zpow_le_zpow_right₀ (by norm_num) (by omega)
  rw [word, nearest_tiny (by positivity) size]
  exact stands_zero .positive

theorem stands_tenths (fraction : e < 0) (moderate : -(2 ^ 11 + m.log2) ≤ e) :
    Stands (UnpackedFloat.ofScientific Format.binary64 m e)
      (nearest ((m * 10 ^ e : ℝ) : EReal)) := by
  have inside : ¬e > 2 ^ Format.binary64.exponentBits := by
    change ¬e > 2 ^ 11
    omega
  have word : UnpackedFloat.ofScientific Format.binary64 m e =
      UnpackedFloat.div Format.binary64 (.finite .positive m 0 positive)
        (.finite .positive (10 ^ (-e).toNat) 0 (Nat.pow_pos (by decide))) := by
    rw [UnpackedFloat.ofScientific, dif_neg positive.ne', if_neg inside,
      if_neg (not_lt.mpr moderate), if_neg (not_le.mpr fraction)]
  have quotient : ((m : ℝ) * 2 ^ (0 : ℤ)) / ((10 ^ (-e).toNat : ℕ) * 2 ^ (0 : ℤ)) =
      m * 10 ^ e := by
    have places : ((-e).toNat : ℤ) = -e := Int.toNat_of_nonneg (by omega)
    rw [zpow_zero, mul_one, mul_one, Nat.cast_pow, Nat.cast_ofNat, ← zpow_natCast, places,
      zpow_neg, div_inv_eq_mul]
  have stands := stands_div_finite (e := 0) (f := 0) .positive .positive positive
    (Nat.pow_pos (by decide) : 0 < 10 ^ (-e).toNat)
  rw [word]
  refine stands.of_eq rfl ?_
  rw [number_parts, number_parts, signed_div, ← EReal.coe_div, quotient]
  rfl

end Sizes

theorem stands_scientific (m : Nat) (e : Int) :
    Stands (UnpackedFloat.ofScientific Format.binary64 m e)
      (nearest ((m * 10 ^ e : ℝ) : EReal)) := by
  rcases Nat.eq_zero_or_pos m with rfl | positive
  · have zero : UnpackedFloat.ofScientific Format.binary64 0 e = .zero .positive := by
      rw [UnpackedFloat.ofScientific, dif_pos rfl]
    rw [zero]
    simpa using stands_zero .positive
  by_cases past : 2 ^ 11 < e
  · exact stands_past positive past
  by_cases below : e < -(2 ^ 11 + m.log2)
  · exact stands_tiny positive below
  rcases le_or_gt 0 e with whole | fraction
  · obtain ⟨k, rfl⟩ := Int.eq_ofNat_of_zero_le whole
    rw [zpow_natCast]
    exact stands_tens positive (by omega)
  · exact stands_tenths positive fraction (not_lt.mp below)

theorem ofScientific_fast {m e : Nat} (digits : m < 2 ^ 53) (power : e ≤ 22) (divides : Bool) :
    Float.ofScientific m divides e =
      if divides then m.toUInt64.toFloat / .ofNat (10 ^ e)
      else m.toUInt64.toFloat * .ofNat (10 ^ e) := by
  rw [Float.ofScientific, dif_pos ⟨digits, power⟩, ← table_tens ⟨e, by omega⟩]
  rfl

/-- Digits and powers of ten that are doubles themselves need one operation. -/
theorem ofScientific_fast_value {m : Nat} {e : Int} (digits : m < 2 ^ 53) (power : e.natAbs ≤ 22) :
    IsNumber (.ofScientific m (e < 0) e.natAbs) ∧
      value (.ofScientific m (e < 0) e.natAbs) = nearest ((m * 10 ^ e : ℝ) : EReal) := by
  have same : m.toUInt64.toNat = m := UInt64.toNat_ofNat_of_lt' (digits.trans (by decide))
  obtain ⟨left, whole⟩ := toFloat_value m.toUInt64
  rw [same, ← (ofNat_value m).2, ofNat_exact digits, ← EReal.coe_natCast] at whole
  obtain ⟨right, tens⟩ := tens_value power
  have finite : value (.ofNat (10 ^ e.natAbs)) ≠ ⊤ ∧ value (.ofNat (10 ^ e.natAbs)) ≠ ⊥ := by
    rw [tens]
    exact ⟨EReal.coe_ne_top _, EReal.coe_ne_bot _⟩
  have nonzero : value (.ofNat (10 ^ e.natAbs)) ≠ 0 := by
    rw [tens, ← EReal.coe_zero, Ne, EReal.coe_eq_coe_iff]
    positivity
  rw [ofScientific_fast digits power]
  rcases lt_or_ge e 0 with fraction | places
  · have quotient_eq : (m : ℝ) / 10 ^ e.natAbs = m * 10 ^ e := by
      obtain ⟨k, rfl⟩ : ∃ k : ℕ, e = -k := ⟨e.natAbs, by omega⟩
      rw [zpow_neg, zpow_natCast, Int.natAbs_neg, Int.natAbs_natCast, div_eq_mul_inv]
    obtain ⟨number, quotient⟩ := div_value left right nonzero (Or.inr finite)
    rw [whole, tens, ← EReal.coe_div, quotient_eq] at quotient
    rw [decide_eq_true fraction, if_pos rfl]
    exact ⟨number, quotient⟩
  · have product_eq : (m : ℝ) * 10 ^ e.natAbs = m * 10 ^ e := by
      obtain ⟨k, rfl⟩ := Int.eq_ofNat_of_zero_le places
      rw [zpow_natCast, Int.natAbs_natCast]
    obtain ⟨number, product⟩ := mul_value left right (Or.inr finite) (Or.inl nonzero)
    rw [whole, tens, ← EReal.coe_mul, product_eq] at product
    rw [decide_eq_false (not_lt.mpr places), if_neg (by decide)]
    exact ⟨number, product⟩

/-- A decimal number is read as the double nearest to it. -/
theorem ofScientific_value (m : Nat) (e : Int) :
    IsNumber (.ofScientific m (e < 0) e.natAbs) ∧
      value (.ofScientific m (e < 0) e.natAbs) = nearest ((m * 10 ^ e : ℝ) : EReal) := by
  by_cases fast : m < 2 ^ 53 ∧ e.natAbs ≤ 22
  · exact ofScientific_fast_value fast.1 fast.2
  · have power : (if decide (e < 0) = true then Int.negOfNat e.natAbs
        else Int.ofNat e.natAbs) = e := by
      rcases lt_or_ge e 0 with fraction | whole
      · rw [if_pos (decide_eq_true fraction), Int.negOfNat_eq]
        exact (Int.eq_neg_natAbs_of_nonpos fraction.le).symm
      · rw [if_neg (by simpa using whole)]
        exact Int.natAbs_of_nonneg whole
    have slow : Float.ofScientific m (e < 0) e.natAbs = .ofModel (.ofScientific m e) := by
      rw [Float.ofScientific, dif_neg fast]
      simp only [power]
    rw [slow, isNumber_iff]
    exact stands_scientific m e

end NoteChart.Binary64
