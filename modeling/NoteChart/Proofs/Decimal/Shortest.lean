import NoteChart.Proofs.Binary64.Scientific
import NoteChart.Decimal.Numeral
import NoteChart.Decimal.Shortest

/-!
The shortest digits of a double are digits of it: the number they write is rounded to the double.
Whatever grid has a hit, the hit lies in the interval of the double, and on the last grid tried the
next point above the double is near enough to be one.
-/
namespace NoteChart.Decimal

open Binary64

structure Binary.IsDouble (b : Binary) : Prop where
  positive : 0 < b.significand
  grid : OnGrid b.significand b.power
  small : b.power ≤ 971

theorem Binary.ofFloat_parts (x : Float) :
    Binary.ofFloat x = ⟨digitsOf x.toBits, gridOf x.toBits⟩ := by
  change (if exponentPart x.toBits = 0 then (⟨mantissaPart x.toBits, -1074⟩ : Binary)
    else ⟨2 ^ 52 + mantissaPart x.toBits, exponentPart x.toBits - 1075⟩) = _
  unfold digitsOf gridOf
  split_ifs with least
  · rw [least]
    rfl
  · rw [Binary.mk.injEq]
    exact ⟨rfl, by omega⟩

section Doubles

variable {x : Float} (finite : x.isFinite = true)
include finite

theorem Binary.ofFloat_value :
    Binary64.value x = signed (signPart x.toBits)
      (scaled (Binary.ofFloat x).significand (Binary.ofFloat x).power) := by
  rw [value_word (isNumber_of_finite finite), magnitude, if_neg (exponentPart_of_finite finite),
    Binary.ofFloat_parts]

theorem Binary.ofFloat_isDouble (nonzero : Binary64.value x ≠ 0) : (Binary.ofFloat x).IsDouble := by
  have parts := Binary.ofFloat_value finite
  rw [Binary.ofFloat_parts] at parts ⊢
  refine ⟨Nat.pos_of_ne_zero fun zero => nonzero ?_, digitsOf_onGrid _, ?_⟩
  · rw [parts, show digitsOf x.toBits = 0 from zero]
    cases signPart x.toBits <;> simp [signed, scaled]
  · have full := exponentPart_of_finite finite
    have exponent := exponentPart_lt x.toBits
    change gridOf x.toBits ≤ 971
    unfold gridOf
    omega

end Doubles

section Intervals

variable (b : Binary) (k : Int)

theorem zpow_toNat {base : ℝ} (nonzero : base ≠ 0) (e : Int) :
    base ^ e.toNat = base ^ (-e).toNat * base ^ e := by
  rcases le_total 0 e with whole | fraction
  · obtain ⟨n, rfl⟩ := Int.eq_ofNat_of_zero_le whole
    simp
  · obtain ⟨n, rfl⟩ : ∃ n : ℕ, e = -n := ⟨e.natAbs, by omega⟩
    simp [nonzero]

noncomputable def Binary.weight : ℝ :=
  (b.interval k).unit * ((2 : ℕ) : ℝ) ^ b.power / ((10 : ℕ) : ℝ) ^ k

theorem Binary.interval_unit_pos : 0 < (b.interval k).unit := by
  simp only [Binary.interval, Nat.shiftLeft_eq, Nat.pow_eq]
  positivity

theorem Binary.weight_pos : 0 < b.weight k := by
  have unit : (0 : ℝ) < (b.interval k).unit := by exact_mod_cast b.interval_unit_pos k
  unfold Binary.weight
  positivity

theorem Binary.weight_point (n : Nat) :
    ((n * (b.interval k).unit : Nat) : ℝ) = b.weight k * (n * 10 ^ k / 2 ^ b.power) := by
  unfold Binary.weight
  push_cast
  field_simp

theorem Binary.weight_quarters (c : Nat) :
    ((c * (b.interval k).scale : Nat) : ℝ) = b.weight k * (c / 4) := by
  have ratio : ((b.interval k).scale : ℝ) * 10 ^ k =
      (b.interval k).unit * (2 ^ b.power / 4) := by
    have quarter : (2 : ℝ) ^ (b.power - 2) = 2 ^ b.power / 4 := by
      rw [zpow_sub₀ (by norm_num)]
      norm_num
    simp only [Binary.interval, Nat.shiftLeft_eq, Nat.pow_eq]
    push_cast
    rw [← quarter, zpow_toNat (by norm_num) k, zpow_toNat (by norm_num) (b.power - 2)]
    ring
  unfold Binary.weight
  rw [Nat.cast_mul, Nat.cast_ofNat, Nat.cast_ofNat, eq_div_of_mul_eq (by positivity) ratio]
  ring

variable {b k}

theorem Binary.quarters_le {c n : Nat} :
    c * (b.interval k).scale ≤ n * (b.interval k).unit ↔
      (c / 4 : ℝ) ≤ n * 10 ^ k / 2 ^ b.power := by
  rw [← Nat.cast_le (α := ℝ), b.weight_point, b.weight_quarters,
    mul_le_mul_iff_right₀ (b.weight_pos k)]

theorem Binary.le_quarters {c n : Nat} :
    n * (b.interval k).unit ≤ c * (b.interval k).scale ↔
      n * 10 ^ k / 2 ^ b.power ≤ (c / 4 : ℝ) := by
  rw [← Nat.cast_le (α := ℝ), b.weight_point, b.weight_quarters,
    mul_le_mul_iff_right₀ (b.weight_pos k)]

theorem Binary.low_eq : (b.interval k).low = if b.significand = 2 ^ 52 ∧ -1074 < b.power
    then 4 * b.significand - 1 else 4 * b.significand - 2 := by
  have leading : leadingBit = 2 ^ 52 := rfl
  simp [Binary.interval, leading]

theorem Binary.low_le_mid : (b.interval k).low ≤ (b.interval k).mid := by
  rw [Binary.low_eq]
  change _ ≤ 4 * b.significand
  split_ifs <;> omega

theorem Binary.half_le_low : (b.significand : ℝ) - 1 / 2 ≤ (b.interval k).low / 4 := by
  have steps : 4 * b.significand ≤ (b.interval k).low + 2 := by
    rw [Binary.low_eq]
    split_ifs <;> omega
  have steps : (4 * b.significand : ℝ) ≤ (b.interval k).low + 2 := by exact_mod_cast steps
  linarith

theorem Binary.quarter_le_low (full : b.significand = 2 ^ 52) (above : -1074 < b.power) :
    (b.significand : ℝ) - 1 / 4 ≤ (b.interval k).low / 4 := by
  have steps : 4 * b.significand ≤ (b.interval k).low + 1 := by
    rw [Binary.low_eq, if_pos ⟨full, above⟩]
    omega
  have steps : (4 * b.significand : ℝ) ≤ (b.interval k).low + 1 := by exact_mod_cast steps
  linarith

theorem Binary.high_eq : ((b.interval k).high : ℝ) / 4 = b.significand + 1 / 2 := by
  change ((4 * b.significand + 2 : Nat) : ℝ) / 4 = _
  push_cast
  ring

theorem Interval.holds_bounds {i : Interval} {n : Nat} (holds : i.holds n = true) :
    i.low * i.scale ≤ n * i.unit ∧ n * i.unit ≤ i.high * i.scale ∧
      (i.closed = true ∨ i.low * i.scale < n * i.unit ∧ n * i.unit < i.high * i.scale) := by
  unfold Interval.holds at holds
  split_ifs at holds with closed
  · simp only [Bool.and_eq_true, decide_eq_true_iff] at holds
    exact ⟨holds.1, holds.2, Or.inl closed⟩
  · simp only [Bool.and_eq_true, decide_eq_true_iff] at holds
    exact ⟨holds.1.le, holds.2.le, Or.inr holds⟩

/-- A grid point in the interval of a double is rounded to it. -/
theorem Binary.roundsTo_of_holds {n : Nat} (holds : (b.interval k).holds n = true) :
    RoundsTo b.significand b.power (n * 10 ^ k) := by
  obtain ⟨low, high, ends⟩ := Interval.holds_bounds holds
  have half := Binary.half_le_low (b := b) (k := k)
  rw [Binary.quarters_le] at low
  rw [Binary.le_quarters, Binary.high_eq] at high
  refine ⟨?_, fun edge => ?_, fun full above => (Binary.quarter_le_low full above).trans low⟩
  · rw [abs_le]
    constructor <;> linarith
  · rcases ends with closed | ⟨low, high⟩
    · exact of_decide_eq_true closed
    · rw [← not_le, Binary.le_quarters, not_le] at low
      rw [← not_le, Binary.quarters_le, not_le, Binary.high_eq] at high
      have inside : |n * 10 ^ k / 2 ^ b.power - (b.significand : ℝ)| < 1 / 2 := by
        rw [abs_lt]
        constructor <;> linarith
      exact absurd edge inside.ne

theorem Binary.holds_above (fine : (10 : ℝ) ^ k < 2 ^ (b.power - 1)) :
    (b.interval k).holds ((b.interval k).mid * (b.interval k).scale / (b.interval k).unit + 1)
      = true := by
  have unit := b.interval_unit_pos k
  generalize floor : (b.interval k).mid * (b.interval k).scale / (b.interval k).unit = below
  have under : below * (b.interval k).unit ≤ (b.interval k).mid * (b.interval k).scale := by
    rw [← floor]
    exact Nat.div_mul_le_self _ _
  have next : (b.interval k).mid * (b.interval k).scale < (below + 1) * (b.interval k).unit := by
    rw [← floor, mul_comm _ (b.interval k).unit]
    exact Nat.lt_mul_div_succ _ unit
  have lower : (b.interval k).low * (b.interval k).scale < (below + 1) * (b.interval k).unit :=
    (Nat.mul_le_mul_right _ Binary.low_le_mid).trans_lt next
  have upper : (below + 1) * (b.interval k).unit < (b.interval k).high * (b.interval k).scale := by
    have step : (10 : ℝ) ^ k / 2 ^ b.power < 1 / 2 := by
      rw [div_lt_iff₀ (by positivity)]
      refine fine.trans_eq ?_
      rw [zpow_sub_one₀ (by norm_num)]
      ring
    have mid : ((b.interval k).mid : ℝ) / 4 = b.significand := by
      change ((4 * b.significand : Nat) : ℝ) / 4 = _
      push_cast
      ring
    rw [Binary.le_quarters] at under
    rw [← not_le, Binary.quarters_le, not_le]
    calc ((below + 1 : Nat) : ℝ) * 10 ^ k / 2 ^ b.power =
          below * 10 ^ k / 2 ^ b.power + 10 ^ k / 2 ^ b.power := by push_cast; ring
      _ < (b.interval k).mid / 4 + 1 / 2 := add_lt_add_of_le_of_lt under step
      _ = (b.interval k).high / 4 := by rw [Binary.high_eq, mid]
  unfold Interval.holds
  split_ifs
  · simp [lower.le, upper.le]
  · simp [lower, upper]

end Intervals

theorem Interval.nearest?_isSome (tie : Tie) {i : Interval}
    (above : i.holds (i.mid * i.scale / i.unit + 1) = true) : (i.nearest? tie).isSome = true := by
  unfold Interval.nearest?
  simp only [above]
  split
  · contradiction
  · contradiction
  · rfl
  · cases tie <;> simp only [] <;> split_ifs <;> rfl

theorem Interval.nearest?_holds {tie : Tie} {i : Interval} {n : Nat}
    (hit : i.nearest? tie = some n) : i.holds n = true ∧ n ≠ 0 := by
  unfold Interval.nearest? at hit
  generalize i.mid * i.scale / i.unit = below at hit
  simp only [] at hit
  split at hit
  · contradiction
  · rename_i lower upper
    obtain rfl : below = n := by simpa using hit
    simpa using lower
  · rename_i lower upper
    obtain rfl : below + 1 = n := by simpa using hit
    exact ⟨upper, by omega⟩
  · rename_i lower upper
    have candidates : n = below ∨ n = below + 1 := by
      cases tie <;> split_ifs at hit <;> simp_all
    rcases candidates with rfl | rfl <;> simp_all

theorem searchGrids_hit {tie : Tie} {b : Binary} {grids : Nat} {k : Int}
    (hit : ∃ j < grids, ((b.interval (k - j)).nearest? tie).isSome = true) :
    ∃ n e, searchGrids tie b k grids = ⟨n, e⟩ ∧ (b.interval e).nearest? tie = some n := by
  induction grids generalizing k with
  | zero =>
    obtain ⟨j, inside, -⟩ := hit
    exact absurd inside (Nat.not_lt_zero j)
  | succ grids ih =>
    unfold searchGrids
    cases found : (b.interval k).nearest? tie with
    | some n => exact ⟨n, k, rfl, found⟩
    | none =>
      obtain ⟨j, inside, some⟩ := hit
      obtain ⟨j, rfl⟩ : ∃ i, j = i + 1 := by
        refine Nat.exists_eq_succ_of_ne_zero fun zero => ?_
        rw [zero, Nat.cast_zero, sub_zero, found] at some
        exact absurd some (by decide)
      refine ih ⟨j, by omega, ?_⟩
      rwa [show k - 1 - (j : Int) = k - ((j + 1 : Nat) : Int) by push_cast; ring]

/-- The last grid tried is fine enough for any double: ten bits are a little more than three digits,
and ten digits a little more than 33 bits. -/
theorem Binary.IsDouble.topGrid_fine {b : Binary} (double : b.IsDouble) :
    (10 : ℝ) ^ (b.topGrid - 23) < 2 ^ (b.power - 1) := by
  obtain ⟨positive, ⟨digits, least, -⟩, small⟩ := double
  have bits : b.significand.log2 < 53 := (Nat.log2_lt positive.ne').mpr digits
  have fine : 4096 * (b.topGrid - 23 + 21) ≤ (53 + b.power) * 1233 := by
    unfold Binary.topGrid
    omega
  generalize b.topGrid - 23 = k at fine
  rcases le_or_gt 0 k with whole | fraction
  · refine lt_of_pow_lt_pow_left₀ 3 (by positivity) ?_
    calc ((10 : ℝ) ^ k) ^ 3 = (10 ^ 3) ^ k := by rw [← zpow_natCast, zpow_comm, zpow_natCast]
      _ ≤ (2 ^ 10) ^ k := zpow_le_zpow_left₀ whole (by norm_num) (by norm_num)
      _ = 2 ^ (10 * k) := by rw [zpow_mul]; norm_cast
      _ < 2 ^ ((b.power - 1) * 3) := zpow_lt_zpow_right₀ (by norm_num) (by omega)
      _ = (2 ^ (b.power - 1)) ^ 3 := by rw [zpow_mul]; norm_cast
  · refine lt_of_pow_lt_pow_left₀ 10 (by positivity) ?_
    calc ((10 : ℝ) ^ k) ^ 10 = (10 ^ 10) ^ k := by rw [← zpow_natCast, zpow_comm, zpow_natCast]
      _ ≤ (2 ^ 33) ^ k := zpow_le_zpow_of_nonpos (by norm_num) (by norm_num) fraction.le
      _ = 2 ^ (33 * k) := by rw [zpow_mul]; norm_cast
      _ < 2 ^ ((b.power - 1) * 10) := zpow_lt_zpow_right₀ (by norm_num) (by omega)
      _ = (2 ^ (b.power - 1)) ^ 10 := by rw [zpow_mul]; norm_cast

noncomputable def tens (m : ℕ) (e : ℤ) : ℝ := m * ((10 : ℕ) : ℝ) ^ e

theorem tens_eq (m : ℕ) (e : ℤ) : tens m e = m * 10 ^ e := by
  rw [tens, Nat.cast_ofNat]

noncomputable def Digits.size (d : Digits) : ℝ := tens d.digits d.exponent

theorem searchGrids_roundsTo {b : Binary} (double : b.IsDouble) (tie : Tie) :
    0 < (searchGrids tie b b.topGrid 24).digits ∧
      RoundsTo b.significand b.power (searchGrids tie b b.topGrid 24).size := by
  have last : ((b.interval (b.topGrid - (23 : Nat))).nearest? tie).isSome = true :=
    Interval.nearest?_isSome tie (Binary.holds_above double.topGrid_fine)
  obtain ⟨n, e, found, hit⟩ := searchGrids_hit ⟨23, (by decide : 23 < 24), last⟩
  obtain ⟨holds, nonzero⟩ := Interval.nearest?_holds hit
  rw [found, Digits.size, tens_eq]
  exact ⟨Nat.pos_of_ne_zero nonzero, Binary.roundsTo_of_holds holds⟩

theorem shortest_value {x : Float} (finite : x.isFinite = true)
    (nonzero : Binary64.value x ≠ 0) (tie : Tie) :
    0 < (shortest tie x).digits ∧
      Binary64.value x = signed (signPart x.toBits) (nearest (shortest tie x).size) := by
  have double := Binary.ofFloat_isDouble finite nonzero
  obtain ⟨positive, rounds⟩ := searchGrids_roundsTo double tie
  refine ⟨positive, ?_⟩
  have digits : (0 : ℝ) < (shortest tie x).digits := by exact_mod_cast positive
  have size : 0 < (shortest tie x).size := by
    rw [Digits.size, tens_eq]
    positivity
  have rounded : roundReal (shortest tie x).size = _ := rounds.roundReal_eq size double.grid
  rw [Binary.ofFloat_value finite, nearest_eq double.grid double.small rounded]

noncomputable def Numeral.size (n : Numeral) : ℝ := tens n.coefficient n.exponent

theorem Numeral.toFloat_value (n : Numeral) :
    IsNumber n.toFloat ∧
      Binary64.value n.toFloat = if n.negative then -nearest n.size else nearest n.size := by
  obtain ⟨number, rounded⟩ := ofScientific_value n.coefficient n.exponent
  rw [← tens_eq] at rounded
  unfold Numeral.toFloat
  split_ifs
  · exact ⟨isNumber_neg number, (neg_value _).trans (congrArg _ rounded)⟩
  · exact ⟨number, rounded⟩

theorem isNegative_iff {x : Float} : isNegative x = true ↔ 2 ^ 63 ≤ x.toBits.toNat := by
  unfold isNegative
  rw [decide_eq_true_iff, ge_iff_le, UInt64.le_iff_toNat_le]
  rfl

theorem signed_signPart (x : Float) (size : EReal) :
    signed (signPart x.toBits) size = if isNegative x then -size else size := by
  unfold signPart
  split_ifs with clear negative negative
  · exact absurd clear (not_lt.mpr (isNegative_iff.mp negative))
  · rfl
  · rfl
  · exact absurd (isNegative_iff.mpr (not_lt.mp clear)) negative

/-- Whoever writes the number of the shortest digits with the sign of the double gets it back. -/
theorem Numeral.toFloat_shortest {x : Float} (finite : x.isFinite = true)
    (nonzero : Binary64.value x ≠ 0) {n : Numeral} {tie : Tie} (sign : n.negative = isNegative x)
    (same : n.size = (shortest tie x).size) : n.toFloat = x := by
  obtain ⟨number, rounded⟩ := n.toFloat_value
  have written := (shortest_value finite nonzero tie).2
  rw [signed_signPart, ← sign, ← same, ← rounded] at written
  exact (eq_of_value nonzero (isNumber_of_finite finite) number written).symm

theorem toBits_of_zero {x : Float} (finite : x.isFinite = true) (zero : Binary64.value x = 0) :
    x.toBits.toNat % 2 ^ 63 = 0 := by
  have digits : digitsOf x.toBits = 0 := by
    by_contra some
    have double := Binary.ofFloat_value finite
    have positive := finite_pos (Nat.pos_of_ne_zero some) (gridOf x.toBits)
    rw [zero, Binary.ofFloat_parts, signed_signPart] at double
    have size : scaled (digitsOf x.toBits) (gridOf x.toBits) = 0 := by
      split_ifs at double
      · exact EReal.neg_eq_zero_iff.mp double.symm
      · exact double.symm
    exact absurd size positive.ne'
  unfold digitsOf mantissaPart exponentPart at digits
  split_ifs at digits <;> omega

theorem Numeral.toFloat_zero {x : Float} (finite : x.isFinite = true)
    (zero : Binary64.value x = 0) : Numeral.toFloat ⟨isNegative x, 0, -1⟩ = x := by
  have word := x.toBits.toNat_lt
  have blank := toBits_of_zero finite zero
  apply eq_of_toBits
  rw [← UInt64.toNat_inj]
  cases sign : isNegative x with
  | false =>
    have clear := mt isNegative_iff.mpr (by simp [sign] : ¬isNegative x = true)
    rw [show x.toBits.toNat = 0 by omega]
    rfl
  | true =>
    have high := isNegative_iff.mp sign
    rw [show x.toBits.toNat = 2 ^ 63 by omega]
    rfl

end NoteChart.Decimal
