import NoteChart.Proofs.Binary64.Unpacked

/-!
Arithmetic on doubles is exact arithmetic followed by rounding. The mantissa of a result is found
with two bits beside it, one for the half below its last digit and one for all that follows; they
are enough to round as if the exact result were known.
-/
namespace NoteChart.Binary64

open Float.Model Float.Model.UnpackedFloat

structure MarksAt (em : ExtendedMantissa) (x f : ℝ) : Prop where
  place : x = em.mantissa + f
  nonneg : 0 ≤ f
  proper : f < 1
  half : em.roundBit = true ↔ 1 ≤ 2 * f
  rest : em.stickyBit = true ↔ f ≠ 0 ∧ 2 * f ≠ 1

def Marks (em : ExtendedMantissa) (x : ℝ) : Prop := ∃ f, MarksAt em x f

theorem marks_exact (m : Nat) : Marks (.ofMantissaAndAccuracy m .exact) m :=
  ⟨0, by constructor <;> simp [ExtendedMantissa.ofMantissaAndAccuracy]⟩

theorem marks_fraction (m r d : Nat) (proper : r < d) :
    Marks (.ofMantissaAndAccuracy m (accuracyOfFraction r d)) (m + r / d) := by
  by_cases zero : r = 0
  · subst zero
    simpa [accuracyOfFraction] using marks_exact m
  have positive : (0 : ℝ) < d := by exact_mod_cast (by omega : 0 < d)
  have numerator : (0 : ℝ) < r := by exact_mod_cast Nat.pos_of_ne_zero zero
  have less : (r : ℝ) / d < 1 := (div_lt_one positive).mpr (by exact_mod_cast proper)
  have more : 0 < (r : ℝ) / d := div_pos numerator positive
  have twice : 2 * ((r : ℝ) / d) = (2 * r : Nat) / d := by
    push_cast
    ring
  unfold accuracyOfFraction
  rw [if_neg zero]
  rcases lt_trichotomy (2 * r) d with order | order | order
  · have below : 2 * ((r : ℝ) / d) < 1 := by
      rw [twice, div_lt_one positive]
      exact_mod_cast order
    rw [compare_lt_iff_lt.mpr order]
    exact ⟨r / d, rfl, more.le, less, by simpa [ExtendedMantissa.ofMantissaAndAccuracy] using below,
      by simpa [ExtendedMantissa.ofMantissaAndAccuracy] using ⟨⟨zero, by omega⟩, below.ne⟩⟩
  · have middle : 2 * ((r : ℝ) / d) = 1 := by
      rw [twice, order, div_self positive.ne']
    rw [compare_eq_iff_eq.mpr order]
    exact ⟨r / d, rfl, more.le, less, by simp [ExtendedMantissa.ofMantissaAndAccuracy, middle],
      by simp [ExtendedMantissa.ofMantissaAndAccuracy, middle]⟩
  · have above : 1 < 2 * ((r : ℝ) / d) := by
      rw [twice, one_lt_div positive]
      exact_mod_cast order
    rw [compare_gt_iff_gt.mpr order]
    exact ⟨r / d, rfl, more.le, less,
      by simpa [ExtendedMantissa.ofMantissaAndAccuracy] using above.le,
      by simpa [ExtendedMantissa.ofMantissaAndAccuracy] using ⟨⟨zero, by omega⟩, above.ne'⟩⟩

theorem Marks.whole {em : ExtendedMantissa} {x : ℝ} (marks : Marks em x) : ⌊x⌋ = em.mantissa := by
  obtain ⟨f, place, nonneg, proper, _, _⟩ := marks
  rw [place, Int.floor_natCast_add, Int.floor_eq_zero_iff.mpr ⟨nonneg, proper⟩, add_zero]

theorem Marks.rounded {em : ExtendedMantissa} {x : ℝ} (marks : Marks em x) :
    (em.roundedMantissa : ℤ) = halfEven x := by
  have whole := marks.whole
  obtain ⟨f, place, nonneg, proper, half, rest⟩ := marks
  have part : Int.fract x = f := by
    rw [place, Int.fract_natCast_add]
    exact Int.fract_eq_self.mpr ⟨nonneg, proper⟩
  unfold halfEven
  rw [whole, part]
  obtain ⟨m, round, sticky⟩ := em
  cases round <;> cases sticky <;> simp at half rest
  · rw [if_pos half]
    rfl
  · rw [if_pos half]
    rfl
  · have middle : 2 * f = 1 := rest (by linarith)
    rw [if_neg (by linarith), if_neg (by linarith)]
    rfl
  · have above : 1 < 2 * f := lt_of_le_of_ne half (Ne.symm rest.2)
    rw [if_neg (by linarith), if_pos above]
    rfl

theorem Marks.shiftRightOne {em : ExtendedMantissa} {x : ℝ} (marks : Marks em x) :
    Marks em.shiftRightOne (x / 2) := by
  obtain ⟨f, place, nonneg, proper, half, rest⟩ := marks
  have some_bit : (em.roundBit || em.stickyBit) = true ↔ f ≠ 0 := by
    rw [Bool.or_eq_true, half, rest]
    constructor
    · rintro (h | h)
      · intro zero
        linarith
      · exact h.1
    · intro h
      by_cases middle : 2 * f = 1
      · exact Or.inl middle.ge
      · exact Or.inr ⟨h, middle⟩
  have digits : (em.mantissa : ℝ) = 2 * (em.mantissa / 2 : Nat) + (em.mantissa % 2 : Nat) := by
    exact_mod_cast (Nat.div_add_mod em.mantissa 2).symm
  refine ⟨((em.mantissa % 2 : Nat) + f) / 2, ?_⟩
  rcases Nat.mod_two_eq_zero_or_one em.mantissa with last | last
  · rw [last, Nat.cast_zero] at digits
    rw [last, Nat.cast_zero]
    refine ⟨?_, by linarith, by linarith, ?_, ?_⟩
    · simp only [ExtendedMantissa.shiftRightOne]
      linarith
    · simp only [ExtendedMantissa.shiftRightOne, last]
      constructor
      · intro odd
        cases odd
      · intro far
        linarith
    · simp only [ExtendedMantissa.shiftRightOne, some_bit]
      constructor
      · exact fun h => ⟨fun zero => h (by linarith), fun far => by linarith⟩
      · exact fun h zero => h.1 (by linarith)
  · rw [last, Nat.cast_one] at digits
    rw [last, Nat.cast_one]
    refine ⟨?_, by linarith, by linarith, ?_, ?_⟩
    · simp only [ExtendedMantissa.shiftRightOne]
      linarith
    · simp only [ExtendedMantissa.shiftRightOne, last]
      exact ⟨fun _ => by linarith, fun _ => rfl⟩
    · simp only [ExtendedMantissa.shiftRightOne, some_bit]
      constructor
      · exact fun h => ⟨fun zero => by linarith, fun far => h (by linarith)⟩
      · exact fun h zero => h.2 (by linarith)

theorem Marks.shiftRight {em : ExtendedMantissa} {x : ℝ} (marks : Marks em x) (k : Nat) :
    Marks (em >>> k) (x / 2 ^ k) := by
  change Marks (Nat.repeat ExtendedMantissa.shiftRightOne k em) _
  induction k with
  | zero => simpa [Nat.repeat] using marks
  | succ k ih =>
    rw [pow_succ, ← div_div]
    exact ih.shiftRightOne

theorem targetExponent_eq (m : Nat) (e : Int) :
    Format.binary64.targetExponent (totalExponent m e) = max ((m.log2 : Int) + e - 52) (-1074) := by
  change max ((m.log2 : Int) + 1 + e - 53) (-1074) = _
  congr 1
  omega

/-- The grid of a number is found from the whole part of it on a finer grid. -/
theorem gridExponent_eq {m : Nat} {e : Int} {x : ℝ} (positive : 0 < x) (whole : ⌊x / 2 ^ e⌋ = m)
    (enough : 2 ^ 52 ≤ m ∨ e ≤ -1074) :
    gridExponent x = max ((m.log2 : Int) + e - 52) (-1074) := by
  have lower : (m : ℝ) * 2 ^ e ≤ x := by
    have floor := Int.floor_le (x / 2 ^ e)
    rw [whole, le_div_iff₀ (by positivity)] at floor
    exact_mod_cast floor
  have upper : x < (m + 1 : ℝ) * 2 ^ e := by
    have floor := Int.lt_floor_add_one (x / 2 ^ e)
    rw [whole, div_lt_iff₀ (by positivity)] at floor
    exact_mod_cast floor
  unfold gridExponent
  rw [abs_of_pos positive]
  by_cases zero : m = 0
  · subst zero
    have low : e ≤ -1074 := enough.resolve_left (by omega)
    have tiny : Int.log 2 x < e := by
      apply (Int.lt_zpow_iff_log_lt (by norm_num) positive).mp
      simpa using upper
    simp only [Nat.log2_zero]
    omega
  · have start : (2 : ℝ) ^ m.log2 ≤ m := by exact_mod_cast Nat.log2_self_le zero
    have stop : (m + 1 : ℝ) ≤ 2 ^ (m.log2 + 1) := by exact_mod_cast Nat.lt_log2_self
    have above : (m.log2 : Int) + e ≤ Int.log 2 x := by
      apply (Int.zpow_le_iff_le_log (by norm_num) positive).mp
      rw [Nat.cast_ofNat, zpow_add₀ (by norm_num), zpow_natCast]
      exact (mul_le_mul_of_nonneg_right start (by positivity)).trans lower
    have below : Int.log 2 x < (m.log2 : Int) + 1 + e := by
      apply (Int.lt_zpow_iff_log_lt (by norm_num) positive).mp
      rw [Nat.cast_ofNat, zpow_add₀ (by norm_num), ← Nat.cast_succ, zpow_natCast]
      exact upper.trans_le (mul_le_mul_of_nonneg_right stop (by positivity))
    omega

theorem mantissa_ofMantissaAndAccuracy (m : Nat) (accuracy : Accuracy) :
    (ExtendedMantissa.ofMantissaAndAccuracy m accuracy).mantissa = m := by
  cases accuracy with
  | exact => rfl
  | inexact order => cases order <;> rfl

theorem shift_to_grid {m : Nat} {e : Int} {accuracy : Accuracy} {x : ℝ} (positive : 0 < x)
    (marks : Marks (.ofMantissaAndAccuracy m accuracy) (x / 2 ^ e))
    (enough : 2 ^ 52 ≤ m ∨ e ≤ -1074) :
    let shifted := shiftToTargetExponent Format.binary64 m e accuracy
    Marks shifted.1 (x / 2 ^ gridExponent x) ∧ shifted.2 = gridExponent x := by
  have whole := marks.whole
  rw [mantissa_ofMantissaAndAccuracy] at whole
  have grid := gridExponent_eq positive whole enough
  have finer : e ≤ gridExponent x := by
    rw [grid]
    rcases enough with full | low
    · have digits := (Nat.le_log2 (by omega)).mpr full
      omega
    · omega
  have steps : ((gridExponent x - e).toNat : Int) = gridExponent x - e :=
    Int.toNat_of_nonneg (by omega)
  unfold shiftToTargetExponent
  rw [targetExponent_eq, ← grid]
  refine ⟨?_, ?_⟩
  · have shifted := marks.shiftRight (gridExponent x - e).toNat
    rwa [div_div, ← zpow_natCast, steps, ← zpow_add₀ (by norm_num), add_sub_cancel] at shifted
  · change e + ((gridExponent x - e).toNat : Int) = gridExponent x
    omega

theorem shift_carry (r : Nat) (g : Int) (least : -1074 ≤ g) (size : r ≤ 2 ^ 53) :
    let shifted := shiftToTargetExponent Format.binary64 r g .exact
    shifted.1.mantissa = (if r < 2 ^ 53 then r else 2 ^ 52) ∧
      shifted.2 = if r < 2 ^ 53 then g else g + 1 := by
  unfold shiftToTargetExponent shiftToExponent
  rw [targetExponent_eq]
  split_ifs with small
  · have digits : r.log2 < 53 := by
      by_cases zero : r = 0
      · simp [zero]
      · exact (Nat.log2_lt zero).mpr small
    have still : (max ((r.log2 : Int) + g - 52) (-1074) - g).toNat = 0 := by omega
    simp only [still, Nat.cast_zero, add_zero]
    exact ⟨rfl, trivial⟩
  · obtain rfl : r = 2 ^ 53 := by omega
    have once : (max ((((2 ^ 53 : Nat).log2 : Nat) : Int) + g - 52) (-1074) - g).toNat = 1 := by
      rw [Nat.log2_two_pow]
      omega
    simp only [once]
    exact ⟨rfl, rfl⟩

def assemble (s : Sign) (m : Nat) (e : Int) : UnpackedFloat :=
  if h : m = 0 then .zero s else .finite s m e (Nat.pos_of_ne_zero h)

theorem roundWithAccuracy_eq (s : Sign) (m : Nat) (e : Int) (accuracy : Accuracy) :
    roundWithAccuracy Format.binary64 s m e accuracy =
      let first := shiftToTargetExponent Format.binary64 m e accuracy
      let last := shiftToTargetExponent Format.binary64 first.1.roundedMantissa first.2 .exact
      assemble s last.1.mantissa last.2 := rfl

theorem assemble_number (s : Sign) {m : Nat} {e : Int} (grid : OnGrid m e) :
    Canonical (assemble s m e) ∧ assemble s m e ≠ .notANumber ∧
      number (assemble s m e) = signed s ((m * 2 ^ e : ℝ) : EReal) := by
  unfold assemble
  split_ifs with zero
  · refine ⟨trivial, by simp, ?_⟩
    rw [zero, Nat.cast_zero, zero_mul, EReal.coe_zero]
    cases s <;> simp [number, signed]
  · exact ⟨grid, by simp, rfl⟩

/-- Rounding a mantissa with its two bits gives the digits that the exact number rounds to. -/
theorem round_number (s : Sign) {m : Nat} {e : Int} {accuracy : Accuracy} {x : ℝ} (positive : 0 < x)
    (marks : Marks (.ofMantissaAndAccuracy m accuracy) (x / 2 ^ e))
    (enough : 2 ^ 52 ≤ m ∨ e ≤ -1074) :
    ∃ n f, OnGrid n f ∧ roundWithAccuracy Format.binary64 s m e accuracy = assemble s n f ∧
      roundReal x = n * 2 ^ f := by
  obtain ⟨shifted, exponent⟩ := shift_to_grid positive marks enough
  have least : -1074 ≤ gridExponent x := le_max_right _ _
  have digits := shifted.rounded
  generalize first : shiftToTargetExponent Format.binary64 m e accuracy = place at *
  have value : roundReal x = (place.1.roundedMantissa : ℝ) * 2 ^ gridExponent x := by
    unfold roundReal
    rw [← digits]
    rfl
  have size : place.1.roundedMantissa ≤ 2 ^ 53 := by
    have binade := roundReal_le_binade positive
    rw [value, zpow_add₀ (by norm_num)] at binade
    exact_mod_cast le_of_mul_le_mul_right binade (by positivity)
  have normal : 2 ^ 52 ≤ place.1.roundedMantissa ∨ gridExponent x = -1074 := by
    rcases Int.lt_or_eq_of_le least with above | same
    · have binade := binade_le_roundReal positive above
      rw [value, zpow_add₀ (by norm_num)] at binade
      exact Or.inl (by exact_mod_cast le_of_mul_le_mul_right binade (by positivity))
    · exact Or.inr same.symm
  have carry := shift_carry place.1.roundedMantissa (gridExponent x) least size
  rw [roundWithAccuracy_eq, first, value]
  simp only [exponent, carry.1, carry.2]
  split_ifs with small
  · exact ⟨_, _, ⟨small, least, normal⟩, rfl, rfl⟩
  · have full : place.1.roundedMantissa = 2 ^ 53 := by omega
    have doubled : ((place.1.roundedMantissa : ℕ) : ℝ) * 2 ^ gridExponent x =
        ((2 ^ 52 : Nat) : ℝ) * 2 ^ (gridExponent x + 1) := by
      rw [full, zpow_add_one₀ (by norm_num)]
      push_cast
      ring
    exact ⟨_, _, ⟨by decide, by omega, Or.inl le_rfl⟩, rfl, doubled⟩

theorem nearest_signed (s : Sign) (x : EReal) : nearest (signed s x) = signed s (nearest x) := by
  cases s
  · exact nearest_neg x
  · rfl

theorem grid_size {m : Nat} {e : Int} (grid : OnGrid m e) : (m : ℝ) * 2 ^ e < reach ↔ e ≤ 971 := by
  obtain ⟨digits, least, normal⟩ := grid
  unfold reach
  constructor
  · intro inside
    by_contra far
    have full : (2 : ℝ) ^ (52 : ℤ) ≤ m := by exact_mod_cast normal.resolve_right (by omega)
    have outside : (2 : ℝ) ^ (1024 : ℤ) ≤ m * 2 ^ e := by
      calc (2 : ℝ) ^ (1024 : ℤ) ≤ 2 ^ (52 + e) := zpow_le_zpow_right₀ (by norm_num) (by omega)
        _ = 2 ^ (52 : ℤ) * 2 ^ e := zpow_add₀ (by norm_num) _ _
        _ ≤ m * 2 ^ e := mul_le_mul_of_nonneg_right full (by positivity)
    exact absurd inside (not_lt.mpr outside)
  · intro near
    have small : (m : ℝ) < 2 ^ (53 : ℤ) := by exact_mod_cast digits
    calc (m : ℝ) * 2 ^ e < 2 ^ (53 : ℤ) * 2 ^ e := mul_lt_mul_of_pos_right small (by positivity)
      _ = 2 ^ (53 + e) := (zpow_add₀ (by norm_num) _ _).symm
      _ ≤ 2 ^ (1024 : ℤ) := zpow_le_zpow_right₀ (by norm_num) (by omega)

theorem roundReal_grid {m : Nat} {e : Int} (grid : OnGrid m e) :
    roundReal (m * 2 ^ e) = m * 2 ^ e := by
  have digits : |(m : ℤ)| < 2 ^ 53 := by
    rw [Nat.abs_cast]
    exact_mod_cast grid.1
  exact_mod_cast roundReal_of_digits m e digits grid.2.1

theorem nearest_eq {m : ℕ} {p : ℤ} {x : ℝ} (grid : OnGrid m p) (small : p ≤ 971)
    (rounded : roundReal x = m * 2 ^ p) : nearest x = scaled m p := by
  have inside : |(m : ℝ) * 2 ^ p| < reach := by
    rw [abs_of_nonneg (by positivity)]
    exact (grid_size grid).mpr small
  rw [nearest_coe, rounded, confine_of_lt inside, scaled]

/-- The numbers rounded to a double are no further from it than half of its last place, and below a
power of two, where doubles are twice as close, than a quarter. -/
structure RoundsTo (m : ℕ) (p : ℤ) (x : ℝ) : Prop where
  near : |x / 2 ^ p - m| ≤ 1 / 2
  tie : |x / 2 ^ p - m| = 1 / 2 → m % 2 = 0
  least : m = 2 ^ 52 → -1074 < p → m - 1 / 4 ≤ x / 2 ^ p

theorem RoundsTo.roundReal_eq {m : ℕ} {p : ℤ} {x : ℝ} (rounds : RoundsTo m p x)
    (positive : 0 < x) (grid : OnGrid m p) : roundReal x = m * 2 ^ p := by
  obtain ⟨near, tie, least⟩ := rounds
  obtain ⟨digits, lowest, normal⟩ := grid
  have place : (0 : ℝ) < 2 ^ p := by positivity
  have binade (k : ℤ) : (2 : ℝ) ^ (k + p) = 2 ^ k * 2 ^ p := zpow_add₀ (by norm_num) _ _
  obtain ⟨low, high⟩ := abs_le.mp near
  by_cases below : x < 2 ^ (52 + p) ∧ -1074 < p
  · obtain ⟨below, above⟩ := below
    rw [binade, ← div_lt_iff₀ place] at below
    have full : m = 2 ^ 52 := by
      have more := normal.resolve_right (by omega)
      have less : (m : ℝ) < 2 ^ (52 : ℤ) + 1 := by linarith
      have less : m < 2 ^ 52 + 1 := by exact_mod_cast less
      omega
    have least := least full above
    have finer : (2 : ℝ) ^ p = 2 ^ (p - 1) * 2 := by
      rw [zpow_sub_one₀ (by norm_num)]
      ring
    have half : x / 2 ^ (p - 1) = 2 * (x / 2 ^ p) := by
      rw [finer]
      field_simp
    have exponent : gridExponent x = p - 1 := by
      refine gridExponent_of_binade positive ?_ (Or.inl ⟨?_, by omega⟩)
      · rw [show 53 + (p - 1) = 52 + p by ring, binade]
        exact (div_lt_iff₀ place).mp below
      · rw [show 52 + (p - 1) = 51 + p by ring, binade, ← le_div_iff₀ place]
        refine le_trans ?_ least
        rw [full]
        norm_num
    have whole : halfEven (x / 2 ^ (p - 1)) = 2 * m := by
      rw [half]
      rw [full] at least ⊢
      norm_num at least below ⊢
      refine halfEven_eq ?_ (fun _ => by decide)
      rw [abs_le]
      constructor <;> push_cast <;> linarith
    unfold roundReal
    rw [exponent, whole, finer]
    push_cast
    ring
  · have upper : x < 2 ^ (53 + p) := by
      have size : (m : ℝ) + 1 ≤ 2 ^ (53 : ℤ) := by exact_mod_cast digits
      rw [binade, ← div_lt_iff₀ place]
      linarith
    have exponent : gridExponent x = p := by
      refine gridExponent_of_binade positive upper ?_
      by_cases last : p = -1074
      · exact Or.inr last
      · exact Or.inl ⟨not_lt.mp fun less => below ⟨less, by omega⟩, lowest⟩
    unfold roundReal
    rw [exponent, halfEven_eq (k := m) near (fun edge => by have := tie edge; omega)]
    push_cast
    ring

theorem packed_small {u : UnpackedFloat} (canonical : Canonical u) (small : IsSmall u) :
    packed u = u := by
  cases u with
  | notANumber => exact packed_notANumber
  | infinity s => exact packed_infinity s
  | zero s => exact packed_zero s
  | finite s m e positive => exact packed_finite s m e positive canonical small

theorem nearest_number {u : UnpackedFloat} (canonical : Canonical u) (small : IsSmall u) :
    nearest (number u) = number u := by
  cases u with
  | notANumber => exact nearest_zero
  | infinity s => simp [number, nearest_signed]
  | zero s => exact nearest_zero
  | finite s m e positive =>
    change nearest (signed s ((m * 2 ^ e : ℝ) : EReal)) = signed s (scaled m e)
    rw [nearest_signed, nearest_eq canonical small (roundReal_grid canonical)]

theorem packed_number {u : UnpackedFloat} (canonical : Canonical u) (given : u ≠ .notANumber) :
    packed u ≠ .notANumber ∧ number (packed u) = nearest (number u) := by
  by_cases small : IsSmall u
  · rw [packed_small canonical small, nearest_number canonical small]
    exact ⟨given, rfl⟩
  cases u with
  | notANumber => exact absurd rfl given
  | infinity s => exact absurd trivial small
  | zero s => exact absurd trivial small
  | finite s m e positive =>
    have past : 971 < e := lt_of_not_ge small
    have outside : reach ≤ (m : ℝ) * 2 ^ e := by
      rw [← not_lt, grid_size canonical]
      omega
    rw [packed_past s m e positive past]
    refine ⟨by simp, ?_⟩
    rw [number_parts, number_infinity, nearest_signed, nearest_coe, roundReal_grid canonical,
      confine, if_pos outside]

theorem packed_round (s : Sign) {m : Nat} {e : Int} {accuracy : Accuracy} {x : ℝ} (positive : 0 < x)
    (marks : Marks (.ofMantissaAndAccuracy m accuracy) (x / 2 ^ e))
    (enough : 2 ^ 52 ≤ m ∨ e ≤ -1074) :
    let u := packed (roundWithAccuracy Format.binary64 s m e accuracy)
    u ≠ .notANumber ∧ number u = nearest (signed s (x : EReal)) := by
  obtain ⟨n, f, grid, rounded, value⟩ := round_number s positive marks enough
  obtain ⟨canonical, given, assembled⟩ := assemble_number s grid
  obtain ⟨given', confined⟩ := packed_number canonical given
  rw [rounded]
  refine ⟨given', ?_⟩
  rw [confined, assembled, nearest_signed, nearest_signed, nearest_coe, nearest_coe,
    roundReal_grid grid, value]

theorem decreaseExponent_value (m : Nat) {e t : Int} (finer : t ≤ e) :
    (decreaseExponent m e t).2 = t ∧ ((decreaseExponent m e t).1 : ℝ) * 2 ^ t = m * 2 ^ e := by
  have steps : ((e - t).toNat : Int) = e - t := Int.toNat_of_nonneg (by omega)
  unfold decreaseExponent
  refine ⟨by simp only []; omega, ?_⟩
  simp only [Nat.shiftLeft_eq]
  rw [Nat.cast_mul, Nat.cast_pow, mul_assoc, Nat.cast_ofNat, ← zpow_natCast,
    ← zpow_add₀ (by norm_num), steps, sub_add_cancel]

theorem packed_exact (s : Sign) (m : Nat) (e : Int) (positive : 0 < m)
    (enough : 2 ^ 52 ≤ m ∨ e ≤ -1074) :
    let u := packed (roundWithAccuracy Format.binary64 s m e .exact)
    u ≠ .notANumber ∧ number u = nearest (signed s ((m * 2 ^ e : ℝ) : EReal)) := by
  have digits : (0 : ℝ) < m := by exact_mod_cast positive
  have marks : Marks (.ofMantissaAndAccuracy m .exact) ((m * 2 ^ e : ℝ) / 2 ^ e) := by
    rw [mul_div_cancel_right₀ _ (by positivity)]
    exact marks_exact m
  exact packed_round s (by positivity) marks enough

theorem packed_filled (s : Sign) (m : Nat) (e : Int) (positive : 0 < m) :
    let u := packed (UnpackedFloat.round Format.binary64 s m e)
    u ≠ .notANumber ∧ number u = nearest (signed s ((m * 2 ^ e : ℝ) : EReal)) := by
  unfold UnpackedFloat.round
  rw [targetExponent_eq]
  rcases le_or_gt (max ((m.log2 : Int) + e - 52) (-1074)) e with short | long
  · obtain ⟨exponent, value⟩ := decreaseExponent_value m short
    have enough : 2 ^ 52 ≤ (decreaseExponent m e (max ((m.log2 : Int) + e - 52) (-1074))).1 ∨
        max ((m.log2 : Int) + e - 52) (-1074) ≤ -1074 := by
      by_cases least : (m.log2 : Int) + e - 52 ≤ -1074
      · exact Or.inr (by omega)
      · have steps : (e - max ((m.log2 : Int) + e - 52) (-1074)).toNat = 52 - m.log2 := by omega
        left
        simp only [decreaseExponent, steps, Nat.shiftLeft_eq]
        calc 2 ^ 52 = 2 ^ m.log2 * 2 ^ (52 - m.log2) := by rw [← pow_add]; congr 1; omega
          _ ≤ m * 2 ^ (52 - m.log2) := Nat.mul_le_mul_right _ (Nat.log2_self_le positive.ne')
    have filled : 0 < (decreaseExponent m e (max ((m.log2 : Int) + e - 52) (-1074))).1 := by
      simp only [decreaseExponent, Nat.shiftLeft_eq]
      positivity
    have rounded := packed_exact s _ _ filled enough
    rw [value] at rounded
    simpa only [exponent] using rounded
  · have still : (e - max ((m.log2 : Int) + e - 52) (-1074)).toNat = 0 := by omega
    have enough : 2 ^ 52 ≤ m ∨ e ≤ -1074 := by
      by_cases full : 52 ≤ m.log2
      · exact Or.inl ((Nat.le_log2 positive.ne').mp full)
      · exact Or.inr (by omega)
    simp only [decreaseExponent, still, Nat.shiftLeft_zero, Nat.cast_zero, sub_zero]
    exact packed_exact s m e positive enough

theorem packed_normalize (k : Int) (e : Int) (s : Sign) :
    let u := packed (UnpackedFloat.normalize Format.binary64 k e s)
    u ≠ .notANumber ∧ number u = nearest ((k * 2 ^ e : ℝ) : EReal) := by
  unfold UnpackedFloat.normalize
  rcases lt_trichotomy k 0 with negative | rfl | positive
  · rw [compare_lt_iff_lt.mpr negative]
    have size : ((-k).toNat : ℝ) = -k := by exact_mod_cast Int.toNat_of_nonneg (by omega : 0 ≤ -k)
    have filled := packed_filled .negative (-k).toNat e (by omega)
    simpa [size, signed] using filled
  · rw [compare_eq_iff_eq.mpr rfl, packed_zero]
    simp [number]
  · rw [compare_gt_iff_gt.mpr positive]
    have size : (k.toNat : ℝ) = k := by exact_mod_cast Int.toNat_of_nonneg positive.le
    have filled := packed_filled .positive k.toNat e (by omega)
    simpa [size, signed] using filled

end NoteChart.Binary64
