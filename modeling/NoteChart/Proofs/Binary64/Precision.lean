import NoteChart.Proofs.Binary64.Order

/-!
How exact doubles are. Whole numbers below 2 to the 53 are exact, so equal fractions of them are
one double, and different fractions of much smaller ones are in their order. As long as numbers stay
below 2 to the 40 no result is rounded by more than 2 to the -12.
-/
namespace NoteChart.Binary64

open Float.Model Float.Model.UnpackedFloat

variable {x y : Float}

theorem magnitude_lt {b c : UInt64} (order : b.toNat % 2 ^ 63 < c.toNat % 2 ^ 63)
    (number : exponentPart c = 2047 → mantissaPart c = 0) : magnitude b < magnitude c := by
  have parts (w : UInt64) : w.toNat % 2 ^ 63 = exponentPart w * 2 ^ 52 + mantissaPart w := by
    unfold exponentPart mantissaPart
    omega
  have mantissa := mantissaPart_lt b
  have mantissa' := mantissaPart_lt c
  have exponent := exponentPart_lt c
  rw [parts, parts] at order
  unfold magnitude scaled
  by_cases full : exponentPart c = 2047
  · have last := number full
    rw [if_neg (by omega), if_pos full]
    exact EReal.coe_lt_top _
  · rw [if_neg (by omega), if_neg full, EReal.coe_lt_coe_iff]
    refine grid_lt (digitsOf_onGrid b) (digitsOf_onGrid c) ?_
    unfold digitsOf gridOf
    split_ifs <;> omega

theorem mantissaPart_of_isNumber (hx : IsNumber x) (full : exponentPart x.toBits = 2047) :
    mantissaPart x.toBits = 0 := by
  rw [isNumber_iff] at hx
  have word : x.toModel.unpack = UnpackedFloat.unpack Format.binary64 x.toBits.toBitVec := rfl
  rw [word, unpack_word, if_pos full] at hx
  by_contra nan
  exact hx (if_neg nan)

theorem exponentPart_of_finite (finite : x.isFinite = true) : exponentPart x.toBits ≠ 2047 := by
  obtain ⟨number, top, bot⟩ := isFinite_iff.mp finite
  intro full
  rw [value_word number, magnitude, if_pos full] at top bot
  unfold signed at top bot
  split at top <;> simp_all

theorem signed_eq {s t : Sign} {a b : EReal} (ha : 0 ≤ a) (hb : 0 ≤ b) (nonzero : signed s a ≠ 0)
    (same : signed s a = signed t b) : s = t ∧ a = b := by
  have apart {a b : EReal} (ha : 0 ≤ a) (hb : 0 ≤ b) (equal : -a = b) : b = 0 := by
    refine le_antisymm ?_ hb
    rw [← equal]
    simpa using ha
  cases s <;> cases t
  · exact ⟨rfl, neg_inj.mp same⟩
  · exact absurd (same.trans (apart ha hb same)) nonzero
  · exact absurd (apart hb ha same.symm) nonzero
  · exact ⟨rfl, same⟩

theorem toBits_eq_of_value (nonzero : value x ≠ 0) (hx : IsNumber x) (hy : IsNumber y)
    (same : value x = value y) : x.toBits = y.toBits := by
  rw [value_word hx] at nonzero
  rw [value_word hx, value_word hy] at same
  obtain ⟨signs, sizes⟩ :=
    signed_eq (magnitude_nonneg _) (magnitude_nonneg _) nonzero same
  have below : x.toBits.toNat % 2 ^ 63 = y.toBits.toNat % 2 ^ 63 := by
    rcases lt_trichotomy (x.toBits.toNat % 2 ^ 63) (y.toBits.toNat % 2 ^ 63) with
      less | equal | more
    · exact absurd sizes (magnitude_lt less (mantissaPart_of_isNumber hy)).ne
    · exact equal
    · exact absurd sizes (magnitude_lt more (mantissaPart_of_isNumber hx)).ne'
  have word := x.toBits.toNat_lt
  have word' := y.toBits.toNat_lt
  rw [← UInt64.toNat_inj]
  unfold signPart at signs
  split_ifs at signs with clear clear' clear'
  · omega
  · omega

theorem eq_of_toBits (same : x.toBits = y.toBits) : x = y := by
  cases x with | ofModel x => cases y with | ofModel y =>
  cases x; cases y
  cases same
  rfl

theorem eq_of_value (nonzero : value x ≠ 0) (hx : IsNumber x) (hy : IsNumber y)
    (same : value x = value y) : x = y :=
  eq_of_toBits (toBits_eq_of_value nonzero hx hy same)

theorem ofNat_exact {n : Nat} (small : n < 2 ^ 53) : value (.ofNat n) = n := by
  have size : |(n : ℝ)| < 2 ^ (53 : ℤ) := by
    rw [Nat.abs_cast]
    exact_mod_cast small
  rw [(ofNat_value n).2, ← EReal.coe_natCast, nearest_coe, roundReal_natCast small,
    confine_of_small size (by decide)]

theorem zero_div_eq (positive : 0.0 < y) (finite : y.isFinite = true) : 0.0 / y = 0.0 := by
  have above := (pos_iff.mp positive).2
  change Float.ofModel (Float.Model.pack (UnpackedFloat.div Format.binary64
    (0.0 : Float).toModel.unpack y.toModel.unpack)) = 0.0
  change y.toModel.unpack.isFinite = true at finite
  rw [unpack_zero]
  unfold value at above
  cases parts : y.toModel.unpack with
  | notANumber => simp [parts, UnpackedFloat.isFinite] at finite
  | infinity s => simp [parts, UnpackedFloat.isFinite] at finite
  | zero s => simp [parts] at above
  | finite s m e hm =>
    cases s with
    | positive => rfl
    | negative =>
      have size := finite_pos hm e
      rw [parts, number_parts] at above
      change 0 < -((m * 2 ^ e : ℝ) : EReal) at above
      exact absurd (EReal.lt_neg_comm.mp above) (by simpa using size.le)

theorem div_ofNat_value {i n : Nat} (positive : 0 < n) (small : i < 2 ^ 53) (short : n < 2 ^ 53) :
    IsNumber (Float.ofNat i / Float.ofNat n) ∧
      value (Float.ofNat i / Float.ofNat n) = nearest ((i / n : ℝ) : EReal) := by
  have finite : (Float.ofNat n).isFinite = true := ofNat_isFinite (short.trans (by decide))
  have quotient := div_value (ofNat_value i).1 (ofNat_value n).1
    (value_ofNat_ne_zero positive) (Or.inr (isFinite_iff.mp finite).2)
  rw [ofNat_exact small, ofNat_exact short] at quotient
  rw [EReal.coe_div]
  exact quotient

theorem fraction_toBits {i j m n : Nat} (inside : i < n) (inside' : j < m) (short : n < 2 ^ 53)
    (short' : m < 2 ^ 53) (same : i * m = j * n) :
    (Float.ofNat i / Float.ofNat n).toBits = (Float.ofNat j / Float.ofNat m).toBits := by
  have hn : 0 < n := Nat.zero_lt_of_lt inside
  have hm : 0 < m := Nat.zero_lt_of_lt inside'
  have finite {k : Nat} (small : k < 2 ^ 53) : (Float.ofNat k).isFinite = true :=
    ofNat_isFinite (small.trans (by decide))
  rcases Nat.eq_zero_or_pos i with rfl | hi
  · obtain rfl : j = 0 := by
      rw [Nat.zero_mul] at same
      exact (Nat.mul_eq_zero.mp same.symm).resolve_right hn.ne'
    change (0.0 / Float.ofNat n).toBits = (0.0 / Float.ofNat m).toBits
    rw [zero_div_eq (ofNat_pos hn) (finite short), zero_div_eq (ofNat_pos hm) (finite short')]
  · obtain ⟨-, left⟩ := div_ofNat_value hn (inside.trans short) short
    obtain ⟨number, right⟩ := div_ofNat_value hm (inside'.trans short') short'
    have equal : (i / n : ℝ) = j / m := by
      rw [div_eq_div_iff (by positivity) (by positivity)]
      exact_mod_cast same
    have lower : Float.ofNat 1 / Float.ofNat (2 ^ 53) ≤ Float.ofNat i / Float.ofNat n :=
      Binary64.le_trans
        (Binary64.div_le_div_left (by decide) (by decide) (ofNat_pos hn) (ofNat_mono short.le))
        (Binary64.div_le_div (ofNat_mono hi) (ofNat_pos hn) (finite short))
    have positive : 0.0 < Float.ofNat i / Float.ofNat n :=
      Binary64.lt_of_lt_of_le (by decide) lower
    refine toBits_eq_of_value (pos_iff.mp positive).2.ne' (isNumber_of_le lower).2 number ?_
    rw [left, right, equal]

theorem roundReal_near {r : ℝ} {e : ℤ} (least : -1021 ≤ e) (small : |r| < 2 ^ e) :
    |roundReal r - r| ≤ 2 ^ (e - 53) := by
  by_cases zero : r = 0
  · rw [zero, roundReal_zero, sub_zero, abs_zero]
    positivity
  have grid : gridExponent r ≤ e - 53 := by
    have inside : |r| < (2 : ℕ) ^ e := by exact_mod_cast small
    have binade := (Int.lt_zpow_iff_log_lt (by norm_num) (abs_pos.mpr zero)).mp inside
    unfold gridExponent
    omega
  have part : |(halfEven (r / 2 ^ gridExponent r) : ℝ) - r / 2 ^ gridExponent r| ≤ 1 :=
    (halfEven_near _).trans (by norm_num)
  have scaled : roundReal r - r =
      (halfEven (r / 2 ^ gridExponent r) - r / 2 ^ gridExponent r) * 2 ^ gridExponent r := by
    unfold roundReal
    field_simp
  rw [scaled, abs_mul, abs_of_pos (by positivity : (0 : ℝ) < 2 ^ gridExponent r)]
  calc _ ≤ 1 * (2 : ℝ) ^ gridExponent r := mul_le_mul_of_nonneg_right part (by positivity)
    _ ≤ 2 ^ (e - 53) := by
      rw [one_mul]
      exact zpow_le_zpow_right₀ (by norm_num) grid

theorem fraction_value {i n : Nat} (inside : i < n) (short : n < 2 ^ 53) :
    value (Float.ofNat i / Float.ofNat n) = roundReal (i / n) ∧ roundReal (i / n) < 1 := by
  have positive : (0 : ℝ) < n := by exact_mod_cast Nat.zero_lt_of_lt inside
  have below : (i / n : ℝ) ≤ ((2 ^ 53 - 1 : ℤ) : ℝ) * 2 ^ (-53 : ℤ) := by
    have step : (i : ℝ) + 1 ≤ n := by exact_mod_cast inside
    have size : (n : ℝ) < 2 ^ 53 := by exact_mod_cast short
    rw [div_le_iff₀ positive]
    norm_num
    linarith
  have last := roundReal_of_digits (2 ^ 53 - 1) (-53) (by norm_num) (by norm_num)
  have high : roundReal (i / n) < 1 := by
    calc roundReal (i / n) ≤ roundReal (((2 ^ 53 - 1 : ℤ) : ℝ) * 2 ^ (-53 : ℤ)) :=
          roundReal_mono below
      _ < 1 := by
          rw [last]
          norm_num
  have low : 0 ≤ roundReal (i / n) := roundReal_nonneg (by positivity)
  have size : |roundReal (i / n)| < 2 ^ (0 : ℤ) := by
    rw [abs_of_nonneg low]
    simpa using high
  refine ⟨?_, high⟩
  rw [(div_ofNat_value (Nat.zero_lt_of_lt inside) (inside.trans short) short).2, nearest_coe,
    confine_of_small size (by decide)]

theorem fraction_bounds {i n : Nat} (inside : i < n) (short : n < 2 ^ 53) :
    0.0 ≤ Float.ofNat i / Float.ofNat n ∧ Float.ofNat i / Float.ofNat n < 1.0 := by
  obtain ⟨rounded, high⟩ := fraction_value inside short
  have number := (div_ofNat_value (Nat.zero_lt_of_lt inside) (inside.trans short) short).1
  have low : 0 ≤ roundReal (i / n) := roundReal_nonneg (by positivity)
  rw [nonneg_iff, lt_iff, rounded, value_one]
  exact ⟨⟨number, by exact_mod_cast low⟩, number, isNumber_one, by exact_mod_cast high⟩

theorem fraction_near {i n : Nat} (inside : i < n) :
    |roundReal (i / n) - i / n| ≤ 2 ^ (-53 : ℤ) := by
  have positive : (0 : ℝ) < n := by exact_mod_cast Nat.zero_lt_of_lt inside
  have part : (i / n : ℝ) < 1 := (div_lt_one positive).mpr (by exact_mod_cast inside)
  have size : |(i / n : ℝ)| < 2 ^ (0 : ℤ) := by
    rwa [abs_of_nonneg (by positivity), zpow_zero]
  exact roundReal_near (by norm_num) size

/-- Different fractions of whole numbers below 2 to the 26 differ by more than 2 to the -52. -/
theorem fraction_gap {i j m n : Nat} (positive : 0 < n) (positive' : 0 < m) (short : n < 2 ^ 26)
    (short' : m < 2 ^ 26) (less : i * m < j * n) : (i / n : ℝ) + 2 ^ (-52 : ℤ) < j / m := by
  have hn : (0 : ℝ) < n := by exact_mod_cast positive
  have hm : (0 : ℝ) < m := by exact_mod_cast positive'
  have step : (i : ℝ) * m + 1 ≤ j * n := by exact_mod_cast less
  have product : (n : ℝ) * m < 2 ^ (52 : ℤ) := by
    have small : n * m < 2 ^ 26 * 2 ^ 26 := Nat.mul_lt_mul'' short short'
    exact_mod_cast small
  have unit : (2 : ℝ) ^ (-52 : ℤ) < 1 / (n * m) := by
    rw [zpow_neg, ← one_div]
    exact one_div_lt_one_div_of_lt (by positivity) product
  calc (i / n : ℝ) + 2 ^ (-52 : ℤ) < i / n + 1 / (n * m) := by linarith
    _ = (i * m + 1) / (n * m) := by field_simp
    _ ≤ j * n / (n * m) := by gcongr
    _ = j / m := by field_simp

theorem fraction_lt {i j m n : Nat} (inside : i < n) (inside' : j < m) (short : n < 2 ^ 26)
    (short' : m < 2 ^ 26) (less : i * m < j * n) :
    Float.ofNat i / Float.ofNat n < Float.ofNat j / Float.ofNat m := by
  have wide {k : Nat} (small : k < 2 ^ 26) : k < 2 ^ 53 := small.trans (by norm_num)
  have positive := Nat.zero_lt_of_lt inside
  have positive' := Nat.zero_lt_of_lt inside'
  have gap := fraction_gap positive positive' short short' less
  have left := abs_le.mp (fraction_near inside)
  have right := abs_le.mp (fraction_near inside')
  rw [lt_iff, (fraction_value inside (wide short)).1, (fraction_value inside' (wide short')).1,
    EReal.coe_lt_coe_iff]
  refine ⟨(div_ofNat_value positive (inside.trans (wide short)) (wide short)).1,
    (div_ofNat_value positive' (inside'.trans (wide short')) (wide short')).1, ?_⟩
  norm_num at left right gap
  linarith

noncomputable def real (x : Float) : ℝ := (value x).toReal

theorem value_eq_real (finite : x.isFinite = true) : value x = real x := by
  obtain ⟨-, top, bot⟩ := isFinite_iff.mp finite
  exact (EReal.coe_toReal top bot).symm

theorem le_iff_real (hx : x.isFinite = true) (hy : y.isFinite = true) :
    x ≤ y ↔ real x ≤ real y := by
  simp [le_iff, isNumber_of_finite hx, isNumber_of_finite hy, value_eq_real hx, value_eq_real hy]

theorem lt_iff_real (hx : x.isFinite = true) (hy : y.isFinite = true) :
    x < y ↔ real x < real y := by
  simp [lt_iff, isNumber_of_finite hx, isNumber_of_finite hy, value_eq_real hx, value_eq_real hy]

theorem real_ofNat {n : Nat} (small : n < 2 ^ 53) : real (.ofNat n) = n := by
  rw [real, ofNat_exact small, ← EReal.coe_natCast, EReal.toReal_coe]

theorem isFinite_neg (finite : x.isFinite = true) : (-x).isFinite = true := by
  obtain ⟨number, top, bot⟩ := isFinite_iff.mp finite
  refine isFinite_iff.mpr ⟨isNumber_neg number, ?_, ?_⟩ <;> simp [neg_value, top, bot]

theorem real_neg (x : Float) : real (-x) = -real x := by
  simp [real, neg_value]

/-- A finite double that is at most `e` away from `r`. -/
structure IsNear (x : Float) (r e : ℝ) : Prop where
  finite : x.isFinite = true
  near : |real x - r| ≤ e

namespace IsNear

variable {r s e f : ℝ}

theorem self (finite : x.isFinite = true) : IsNear x (real x) 0 :=
  ⟨finite, by simp⟩

theorem ofNat {n : Nat} (small : n < 2 ^ 53) : IsNear (.ofNat n) n 0 := by
  have near := IsNear.self (ofNat_isFinite (small.trans (by decide)))
  rwa [real_ofNat small] at near

theorem of_rounded {v : ℝ} (number : IsNumber x) (rounded : value x = nearest v)
    (near : |v - r| ≤ e) (fine : e < 1) (small : |r| ≤ 2 ^ 40 - 1) :
    IsNear x r (e + 2 ^ (-13 : ℤ)) := by
  have inside : |v| < 2 ^ 40 := by
    have sum := abs_add_le (v - r) r
    rw [sub_add_cancel] at sum
    linarith
  have moved : |roundReal v - v| ≤ 2 ^ (-13 : ℤ) :=
    roundReal_near (by norm_num) (by exact_mod_cast inside : |v| < 2 ^ (40 : ℤ))
  have size : |roundReal v| < 2 ^ (41 : ℤ) := by
    have sum := abs_add_le (roundReal v - v) v
    rw [sub_add_cancel] at sum
    calc |roundReal v| < 2 ^ (-13 : ℤ) + 2 ^ 40 := by linarith
      _ ≤ 2 ^ (41 : ℤ) := by norm_num
  rw [nearest_coe, confine_of_small size (by decide)] at rounded
  refine ⟨isFinite_iff.mpr ⟨number, ?_, ?_⟩, ?_⟩
  · simp [rounded]
  · simp [rounded]
  · have sum := abs_add_le (roundReal v - v) (v - r)
    rw [sub_add_sub_cancel] at sum
    rw [real, rounded, EReal.toReal_coe]
    linarith

theorem add (left : IsNear x r e) (right : IsNear y s f) (fine : e + f < 1)
    (small : |r + s| ≤ 2 ^ 40 - 1) : IsNear (x + y) (r + s) (e + f + 2 ^ (-13 : ℤ)) := by
  obtain ⟨hx, top, bot⟩ := isFinite_iff.mp left.finite
  obtain ⟨number, sum⟩ := add_value hx (isNumber_of_finite right.finite) (Or.inl bot) (Or.inl top)
  rw [value_eq_real left.finite, value_eq_real right.finite, ← EReal.coe_add] at sum
  refine of_rounded number sum ?_ fine small
  have parts := abs_add_le (real x - r) (real y - s)
  rw [← add_sub_add_comm] at parts
  linarith [left.near, right.near]

theorem sub (left : IsNear x r e) (right : IsNear y s f) (fine : e + f < 1)
    (small : |r - s| ≤ 2 ^ 40 - 1) : IsNear (x - y) (r - s) (e + f + 2 ^ (-13 : ℤ)) := by
  obtain ⟨hx, top, bot⟩ := isFinite_iff.mp left.finite
  obtain ⟨hy, top', bot'⟩ := isFinite_iff.mp right.finite
  obtain ⟨number, difference⟩ := sub_value hx hy (Or.inl bot) (Or.inl top)
  rw [value_eq_real left.finite, value_eq_real right.finite, ← EReal.coe_sub] at difference
  refine of_rounded number difference ?_ fine small
  have parts := abs_sub (real x - r) (real y - s)
  rw [sub_sub_sub_comm] at parts
  linarith [left.near, right.near]

end IsNear
end NoteChart.Binary64
