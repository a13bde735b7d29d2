import Mathlib

/-!
Rounding real numbers to doubles. A number lies on the grid of its magnitude: 53 binary digits,
and no digit below the one of weight 2 to the -1074. It goes to the nearest point of that grid and,
from the middle between two, to the even one. The order of numbers survives, and a point of the
grid stays where it is.
-/
namespace NoteChart.Binary64

/-- The nearest whole number, and the even one from the middle between two. -/
noncomputable def halfEven (x : ℝ) : ℤ :=
  if 2 * Int.fract x < 1 then ⌊x⌋
  else if 1 < 2 * Int.fract x then ⌊x⌋ + 1
  else ⌊x⌋ + ⌊x⌋ % 2

theorem halfEven_bounds (x : ℝ) : ⌊x⌋ ≤ halfEven x ∧ halfEven x ≤ ⌊x⌋ + 1 := by
  unfold halfEven
  split_ifs <;> omega

theorem halfEven_near (x : ℝ) : |(halfEven x : ℝ) - x| ≤ 1 / 2 := by
  have split := Int.floor_add_fract x
  have even : ((⌊x⌋ % 2 : ℤ) : ℝ) = 0 ∨ ((⌊x⌋ % 2 : ℤ) : ℝ) = 1 := by
    exact_mod_cast Int.emod_two_eq_zero_or_one ⌊x⌋
  have part := Int.fract_nonneg x
  rw [abs_le]
  unfold halfEven
  split_ifs with less more <;> push_cast
  · constructor <;> linarith
  · have below := Int.fract_lt_one x
    constructor <;> linarith
  · rcases even with low | high
    · constructor <;> linarith
    · constructor <;> linarith

theorem halfEven_mono : Monotone halfEven := by
  intro x y below
  have floors : ⌊x⌋ ≤ ⌊y⌋ := Int.floor_le_floor below
  rcases Int.lt_or_eq_of_le floors with apart | same
  · have upper := (halfEven_bounds x).2
    have lower := (halfEven_bounds y).1
    omega
  · have parts : Int.fract x ≤ Int.fract y := by
      unfold Int.fract
      rw [same]
      linarith
    unfold halfEven
    rw [same]
    split_ifs <;> first | omega | (exfalso; linarith)

@[simp] theorem halfEven_intCast (k : ℤ) : halfEven k = k := by
  simp [halfEven]

theorem halfEven_neg (x : ℝ) : halfEven (-x) = -halfEven x := by
  by_cases whole : Int.fract x = 0
  · obtain ⟨k, rfl⟩ : ∃ k : ℤ, (k : ℝ) = x := Int.fract_eq_zero_iff.mp whole
    rw [← Int.cast_neg, halfEven_intCast, halfEven_intCast]
  · have mirrored : Int.fract (-x) = 1 - Int.fract x := Int.fract_neg whole
    have floor : ⌊-x⌋ = -⌊x⌋ - 1 := by
      have left := Int.floor_add_fract x
      have right := Int.floor_add_fract (-x)
      have sum : (⌊-x⌋ : ℝ) = ((-⌊x⌋ - 1 : ℤ) : ℝ) := by push_cast; linarith
      exact_mod_cast sum
    unfold halfEven
    rw [mirrored, floor]
    split_ifs <;> first | omega | (exfalso; linarith)

theorem halfEven_eq {x : ℝ} {k : ℤ} (near : |x - k| ≤ 1 / 2) (tie : |x - k| = 1 / 2 → k % 2 = 0) :
    halfEven x = k := by
  obtain ⟨low, high⟩ := abs_le.mp near
  by_cases below : x < k
  · have floor : ⌊x⌋ = k - 1 := by
      rw [Int.floor_eq_iff]
      push_cast
      constructor <;> linarith
    have part : Int.fract x = x - k + 1 := by
      rw [Int.fract, floor]
      push_cast
      ring
    unfold halfEven
    rw [part, floor]
    split_ifs with less more
    · linarith
    · ring
    · have even := tie (by rw [abs_of_neg (by linarith)]; linarith)
      omega
  · have floor : ⌊x⌋ = k := by
      rw [Int.floor_eq_iff]
      constructor <;> linarith
    have part : Int.fract x = x - k := by rw [Int.fract, floor]
    unfold halfEven
    rw [part, floor]
    split_ifs with less more
    · rfl
    · linarith
    · have even := tie (by rw [abs_of_nonneg (by linarith)]; linarith)
      omega

noncomputable def scaled (m : ℕ) (e : ℤ) : EReal := ((m * 2 ^ e : ℝ) : EReal)

noncomputable def gridExponent (x : ℝ) : ℤ := max (Int.log 2 |x| - 52) (-1074)

theorem gridExponent_neg (x : ℝ) : gridExponent (-x) = gridExponent x := by
  unfold gridExponent
  rw [abs_neg]

/-- The nearest number with the digits that a double keeps, however large. -/
noncomputable def roundReal (x : ℝ) : ℝ :=
  halfEven (x / 2 ^ gridExponent x) * 2 ^ gridExponent x

theorem roundReal_neg (x : ℝ) : roundReal (-x) = -roundReal x := by
  unfold roundReal
  rw [gridExponent_neg, neg_div, halfEven_neg, Int.cast_neg, neg_mul]

@[simp] theorem roundReal_zero : roundReal 0 = 0 := by
  have whole := halfEven_intCast 0
  rw [Int.cast_zero] at whole
  simp [roundReal, whole]

theorem roundReal_nonneg {x : ℝ} (nonneg : 0 ≤ x) : 0 ≤ roundReal x := by
  have scaled : ((0 : ℤ) : ℝ) ≤ x / 2 ^ gridExponent x := by
    rw [Int.cast_zero]
    positivity
  have digits : 0 ≤ halfEven (x / 2 ^ gridExponent x) := by
    simpa only [halfEven_intCast] using halfEven_mono scaled
  have digits' : (0 : ℝ) ≤ halfEven (x / 2 ^ gridExponent x) := by exact_mod_cast digits
  unfold roundReal
  positivity

theorem roundReal_of_digits (k e : ℤ) (digits : |k| < 2 ^ 53) (least : -1074 ≤ e) :
    roundReal (k * 2 ^ e) = k * 2 ^ e := by
  by_cases zero : k = 0
  · simp [zero]
  have grid : gridExponent (k * 2 ^ e) ≤ e := by
    have size : |(k : ℝ) * 2 ^ e| < (2 : ℕ) ^ (53 + e) := by
      have small : |(k : ℝ)| < 2 ^ 53 := by exact_mod_cast digits
      rw [abs_mul, abs_of_pos (by positivity : (0 : ℝ) < 2 ^ e), Nat.cast_ofNat,
        zpow_add₀ (by norm_num : (2 : ℝ) ≠ 0)]
      exact mul_lt_mul_of_pos_right (by exact_mod_cast small) (by positivity)
    have nonzero : 0 < |(k : ℝ) * 2 ^ e| := by positivity
    have binade := (Int.lt_zpow_iff_log_lt (by norm_num : 1 < 2) nonzero).mp size
    unfold gridExponent
    omega
  have whole : (k : ℝ) * 2 ^ e / 2 ^ gridExponent (k * 2 ^ e) =
      ((k * 2 ^ (e - gridExponent (k * 2 ^ e)).toNat : ℤ) : ℝ) := by
    have places : ((e - gridExponent (k * 2 ^ e)).toNat : ℤ) = e - gridExponent (k * 2 ^ e) :=
      Int.toNat_of_nonneg (by omega)
    push_cast
    rw [mul_div_assoc, ← zpow_sub₀ (by norm_num : (2 : ℝ) ≠ 0), ← zpow_natCast, places]
  unfold roundReal
  rw [whole, halfEven_intCast, ← whole, div_mul_cancel₀ _ (by positivity)]

theorem roundReal_natCast {n : ℕ} (small : n < 2 ^ 53) : roundReal n = n := by
  have same := roundReal_of_digits n 0 (by rw [Nat.abs_cast]; exact_mod_cast small) (by decide)
  rwa [Int.cast_natCast, zpow_zero, mul_one] at same

theorem gridExponent_of_binade {x : ℝ} {g : ℤ} (positive : 0 < x) (high : x < 2 ^ (53 + g))
    (low : 2 ^ (52 + g) ≤ x ∧ -1074 ≤ g ∨ g = -1074) : gridExponent x = g := by
  have below : Int.log 2 x < 53 + g :=
    (Int.lt_zpow_iff_log_lt (by norm_num) positive).mp (by exact_mod_cast high)
  unfold gridExponent
  rw [abs_of_pos positive]
  rcases low with ⟨start, least⟩ | least
  · have above : 52 + g ≤ Int.log 2 x :=
      (Int.zpow_le_iff_le_log (by norm_num) positive).mp (by exact_mod_cast start)
    omega
  · omega

theorem roundReal_le_binade {x : ℝ} (positive : 0 < x) :
    roundReal x ≤ 2 ^ (53 + gridExponent x) := by
  have binade : x < (2 : ℕ) ^ (Int.log 2 |x| + 1) := by
    have inside := Int.lt_zpow_succ_log_self (by norm_num : 1 < 2) |x|
    rwa [abs_of_pos positive] at inside ⊢
  have places : Int.log 2 |x| + 1 ≤ 53 + gridExponent x := by
    unfold gridExponent
    omega
  have size : x ≤ 2 ^ (53 + gridExponent x) := by
    rw [Nat.cast_ofNat] at binade
    exact binade.le.trans (zpow_le_zpow_right₀ (by norm_num) places)
  have scaled : x / 2 ^ gridExponent x ≤ ((2 ^ 53 : ℤ) : ℝ) := by
    rw [div_le_iff₀ (by positivity)]
    rw [zpow_add₀ (by norm_num : (2 : ℝ) ≠ 0)] at size
    exact_mod_cast size
  have digits := halfEven_mono scaled
  rw [halfEven_intCast] at digits
  unfold roundReal
  rw [zpow_add₀ (by norm_num : (2 : ℝ) ≠ 0)]
  exact mul_le_mul_of_nonneg_right (by exact_mod_cast digits) (by positivity)

theorem binade_le_roundReal {x : ℝ} (positive : 0 < x) (normal : -1074 < gridExponent x) :
    2 ^ (52 + gridExponent x) ≤ roundReal x := by
  have grid : gridExponent x = Int.log 2 |x| - 52 := by
    unfold gridExponent at normal ⊢
    omega
  have size : 2 ^ (52 + gridExponent x) ≤ x := by
    have inside := Int.zpow_log_le_self (by norm_num : 1 < 2) (abs_pos.mpr positive.ne')
    rw [abs_of_pos positive] at inside grid
    rw [grid, add_sub_cancel]
    exact_mod_cast inside
  have scaled : ((2 ^ 52 : ℤ) : ℝ) ≤ x / 2 ^ gridExponent x := by
    rw [le_div_iff₀ (by positivity)]
    rw [zpow_add₀ (by norm_num : (2 : ℝ) ≠ 0)] at size
    exact_mod_cast size
  have digits := halfEven_mono scaled
  rw [halfEven_intCast] at digits
  unfold roundReal
  rw [zpow_add₀ (by norm_num : (2 : ℝ) ≠ 0)]
  exact mul_le_mul_of_nonneg_right (by exact_mod_cast digits) (by positivity)

theorem roundReal_mono_of_pos {x y : ℝ} (positive : 0 < x) (below : x ≤ y) :
    roundReal x ≤ roundReal y := by
  have grids : gridExponent x ≤ gridExponent y := by
    have logs : Int.log 2 x ≤ Int.log 2 y := Int.log_mono_right positive below
    unfold gridExponent
    rw [abs_of_pos positive, abs_of_pos (positive.trans_le below)]
    omega
  -- on different grids the end of one binade parts the two, on one grid the digits are compared
  rcases Int.lt_or_eq_of_le grids with apart | same
  · have lowest : -1074 ≤ gridExponent x := le_max_right _ _
    calc roundReal x ≤ 2 ^ (53 + gridExponent x) := roundReal_le_binade positive
      _ ≤ 2 ^ (52 + gridExponent y) := zpow_le_zpow_right₀ (by norm_num) (by omega)
      _ ≤ roundReal y := binade_le_roundReal (positive.trans_le below) (by omega)
  · have digits : halfEven (x / 2 ^ gridExponent y) ≤ halfEven (y / 2 ^ gridExponent y) :=
      halfEven_mono (div_le_div_of_nonneg_right below (by positivity))
    unfold roundReal
    rw [same]
    exact mul_le_mul_of_nonneg_right (by exact_mod_cast digits) (by positivity)

theorem roundReal_mono : Monotone roundReal := by
  intro x y below
  rcases lt_or_ge 0 x with positive | nonpos
  · exact roundReal_mono_of_pos positive below
  rcases lt_or_ge y 0 with negative | nonneg
  · have mirrored := roundReal_mono_of_pos (neg_pos.mpr negative) (neg_le_neg below)
    rw [roundReal_neg, roundReal_neg] at mirrored
    linarith
  · have left := roundReal_nonneg (neg_nonneg.mpr nonpos)
    have right := roundReal_nonneg nonneg
    rw [roundReal_neg] at left
    linarith

noncomputable def reach : ℝ := 2 ^ (1024 : ℤ)

theorem reach_pos : 0 < reach := by
  unfold reach
  positivity

noncomputable def confine (x : ℝ) : EReal :=
  if reach ≤ x then ⊤ else if x ≤ -reach then ⊥ else x

theorem confine_of_lt {x : ℝ} (size : |x| < reach) : confine x = x := by
  have bounds := abs_lt.mp size
  unfold confine
  rw [if_neg (by linarith), if_neg (by linarith)]

theorem confine_of_small {x : ℝ} {e : ℤ} (size : |x| < 2 ^ e) (inside : e ≤ 1024) :
    confine x = x :=
  confine_of_lt (size.trans_le (zpow_le_zpow_right₀ (by norm_num) inside))

theorem confine_neg (x : ℝ) : confine (-x) = -confine x := by
  have far := reach_pos
  unfold confine
  split_ifs <;> first | (exfalso; linarith) | simp

theorem confine_mono : Monotone confine := by
  intro x y below
  have far := reach_pos
  unfold confine
  split_ifs <;> first | exact le_top | exact bot_le | (exfalso; linarith) | exact_mod_cast below

/-- The double nearest to an extended real number, as a number. -/
noncomputable def nearest (x : EReal) : EReal :=
  if x = ⊤ then ⊤ else if x = ⊥ then ⊥ else confine (roundReal x.toReal)

@[simp] theorem nearest_top : nearest ⊤ = ⊤ := by
  simp [nearest]

@[simp] theorem nearest_bot : nearest ⊥ = ⊥ := by
  simp [nearest]

@[simp] theorem nearest_coe (x : ℝ) : nearest x = confine (roundReal x) := by
  simp [nearest]

@[simp] theorem nearest_zero : nearest 0 = 0 := by
  rw [← EReal.coe_zero, nearest_coe, roundReal_zero, confine_of_lt]
  simpa using reach_pos

theorem nearest_neg (x : EReal) : nearest (-x) = -nearest x := by
  induction x with
  | bot => simp
  | top => simp
  | coe x => rw [← EReal.coe_neg, nearest_coe, nearest_coe, roundReal_neg, confine_neg]

theorem nearest_mono : Monotone nearest := by
  intro x y below
  induction x with
  | bot => simp
  | top => simp [top_le_iff.mp below]
  | coe x =>
    induction y with
    | bot => simp at below
    | top => simp
    | coe y =>
      rw [nearest_coe, nearest_coe]
      exact confine_mono (roundReal_mono (EReal.coe_le_coe_iff.mp below))

end NoteChart.Binary64
