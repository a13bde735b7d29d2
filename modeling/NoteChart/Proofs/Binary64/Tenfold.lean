import NoteChart.Proofs.Binary64.Precision

/-!
Division by ten and back. The tenth of a whole number is rounded, but ten times as much rounds to
the number again: both errors together are half of its last place at most, and less than half in the
lower part of a binade. In the upper part the last place decides the ties; it is even for numbers
below 2 to the 52, which do not need it.
-/
namespace NoteChart.Binary64

open Float.Model Float.Model.UnpackedFloat

theorem gridExponent_tenth {m s : ℕ} {p : ℤ} (least : -1070 ≤ p) (place : s ≤ 4)
    (low : 10 * 2 ^ 52 ≤ 2 ^ s * m) (high : 2 ^ s * m < 10 * 2 ^ 53) :
    gridExponent (m * 2 ^ p / 10) = p - s := by
  have unit : (0 : ℝ) < 2 ^ (p - s) := by positivity
  have parts : (m * 2 ^ p / 10 : ℝ) = (2 ^ s * m : ℕ) / 10 * 2 ^ (p - s) := by
    rw [zpow_sub₀ (by norm_num), zpow_natCast]
    push_cast
    field_simp
  have low' : ((10 * 2 ^ 52 : ℕ) : ℝ) ≤ (2 ^ s * m : ℕ) := by exact_mod_cast low
  have high' : ((2 ^ s * m : ℕ) : ℝ) < (10 * 2 ^ 53 : ℕ) := by exact_mod_cast high
  rw [parts]
  push_cast at low' high'
  apply gridExponent_of_binade
  · push_cast
    have positive : (0 : ℝ) < 2 ^ s * m := by linarith
    positivity
  · rw [zpow_add₀ (by norm_num)]
    apply mul_lt_mul_of_pos_right _ unit
    push_cast
    linarith
  · refine Or.inl ⟨?_, by omega⟩
    rw [zpow_add₀ (by norm_num)]
    apply mul_le_mul_of_nonneg_right _ unit.le
    push_cast
    linarith

theorem tenfold_near {m s : ℕ} {p : ℤ} (least : -1070 ≤ p) (place : s = 3 ∨ s = 4)
    (low : 10 * 2 ^ 52 ≤ 2 ^ s * m) (high : 2 ^ s * m < 10 * 2 ^ 53) :
    |roundReal (m * 2 ^ p / 10) * 10 / 2 ^ p - m| ≤ 4 / 2 ^ s := by
  have unit : (2 : ℝ) ^ (p - s) * 2 ^ s = 2 ^ p := by
    rw [← zpow_natCast, ← zpow_add₀ (by norm_num), sub_add_cancel]
  have tenth : (m * 2 ^ p / 10 : ℝ) / 2 ^ (p - s) = (2 ^ s * m : ℕ) / 10 := by
    rw [← unit]
    push_cast
    field_simp
  obtain ⟨q, rounded⟩ : ∃ q : ℤ, halfEven ((2 ^ s * m : ℕ) / 10) = q := ⟨_, rfl⟩
  have error : |(10 * q - (2 ^ s * m : ℕ) : ℝ)| ≤ 5 := by
    have near := halfEven_near ((2 ^ s * m : ℕ) / 10 : ℝ)
    rw [rounded, abs_le] at near
    rw [abs_le]
    constructor <;> linarith [near.1, near.2]
  have even : |10 * q - (2 ^ s * m : ℕ)| ≤ 4 := by
    have bound : |10 * q - (2 ^ s * m : ℕ)| ≤ 5 := by exact_mod_cast error
    rw [abs_le] at bound ⊢
    rcases place with rfl | rfl <;> omega
  have error' : |(10 * q - (2 ^ s * m : ℕ) : ℝ)| ≤ 4 := by exact_mod_cast even
  have back : roundReal (m * 2 ^ p / 10) * 10 / 2 ^ p - m =
      (10 * q - (2 ^ s * m : ℕ)) / 2 ^ s := by
    unfold roundReal
    rw [gridExponent_tenth least (by omega) low high, tenth, rounded, ← unit]
    push_cast
    field_simp
  rw [back, abs_div, abs_of_pos (by positivity : (0 : ℝ) < 2 ^ s)]
  gcongr

/-- Ten times the rounded tenth of a number rounds to the number, if there is no tie or its last
digit is even. -/
theorem roundReal_tenfold {m : ℕ} {p : ℤ} (grid : OnGrid m p) (full : 2 ^ 52 ≤ m)
    (even : 5 * 2 ^ 50 ≤ m → m % 2 = 0) (least : -1070 ≤ p) :
    roundReal (roundReal (m * 2 ^ p / 10) * 10) = m * 2 ^ p := by
  have digits := grid.1
  have rounds : RoundsTo m p (roundReal (m * 2 ^ p / 10) * 10) := by
    by_cases upper : 5 * 2 ^ 50 ≤ m
    · have near := tenfold_near (m := m) (s := 3) least (Or.inl rfl) (by omega) (by omega)
      refine ⟨near.trans (by norm_num), fun _ => even upper, ?_⟩
      intro first _
      omega
    · have near := tenfold_near (m := m) (s := 4) least (Or.inr rfl) (by omega) (by omega)
      refine ⟨near.trans (by norm_num), ?_, ?_⟩
      · intro tie
        norm_num [tie] at near
      · intro _ _
        linarith [(abs_le.mp near).1]
  have positive : 0 < roundReal (m * 2 ^ p / 10) * 10 := by
    have lower := (abs_le.mp rounds.near).1
    have whole : (1 : ℝ) ≤ m := by exact_mod_cast (by omega : 1 ≤ m)
    have scaled : 0 < roundReal (m * 2 ^ p / 10) * 10 / 2 ^ p := by linarith
    exact (div_pos_iff_of_pos_right (by positivity)).mp scaled
  exact rounds.roundReal_eq positive grid

theorem filled_digits {n : ℕ} (positive : 0 < n) (small : n < 2 ^ 53) :
    ∃ k : ℕ, 2 ^ 52 ≤ n * 2 ^ k ∧ n * 2 ^ k < 2 ^ 53 ∧ k ≤ 52 := by
  have short : n.log2 < 53 := (Nat.log2_lt positive.ne').mpr small
  obtain ⟨k, rest⟩ : ∃ k, n.log2 + k = 52 := ⟨52 - n.log2, by omega⟩
  refine ⟨k, ?_, ?_, by omega⟩
  · calc 2 ^ 52 = 2 ^ n.log2 * 2 ^ k := by rw [← pow_add, rest]
      _ ≤ n * 2 ^ k := Nat.mul_le_mul_right _ (Nat.log2_self_le positive.ne')
  · calc n * 2 ^ k < 2 ^ (n.log2 + 1) * 2 ^ k :=
          Nat.mul_lt_mul_of_pos_right Nat.lt_log2_self (by positivity)
      _ = 2 ^ 53 := by rw [← pow_add, Nat.add_right_comm, rest]

theorem roundReal_tenfold_ofNat {n : ℕ} (positive : 0 < n) (small : n < 5 * 2 ^ 50) :
    roundReal (roundReal (n / 10) * 10) = n := by
  obtain ⟨k, full, digits, short⟩ := filled_digits positive (by omega)
  have even : 5 * 2 ^ 50 ≤ n * 2 ^ k → n * 2 ^ k % 2 = 0 := by
    intro upper
    cases k with
    | zero => omega
    | succ k => rw [pow_succ, ← Nat.mul_assoc, Nat.mul_mod_left]
  have around := roundReal_tenfold (p := -(k : ℤ)) ⟨digits, by omega, Or.inl full⟩ full even
    (by omega)
  have written : ((n * 2 ^ k : ℕ) : ℝ) * 2 ^ (-(k : ℤ)) = n := by
    rw [zpow_neg, zpow_natCast]
    push_cast
    field_simp
  rwa [written] at around

theorem tenfold {n : ℕ} (small : n < 5 * 2 ^ 50) :
    Float.ofNat n / 10.0 * 10.0 = Float.ofNat n := by
  rcases Nat.eq_zero_or_pos n with rfl | positive
  · decide
  have short : n < 2 ^ 53 := by omega
  have around := roundReal_tenfold_ofNat positive small
  have size : (n : ℝ) < 2 ^ (53 : ℤ) := by exact_mod_cast short
  have low : 0 ≤ roundReal (n / 10) := roundReal_nonneg (by positivity)
  have high : roundReal (n / 10) ≤ n := by
    calc roundReal (n / 10) ≤ roundReal n := roundReal_mono (by linarith [n.cast_nonneg (α := ℝ)])
      _ = n := roundReal_natCast short
  obtain ⟨number, tenth⟩ := div_ofNat_value (n := 10) (by decide) short (by decide)
  have ten := ofNat_exact (n := 10) (by norm_num)
  rw [nearest_coe, Nat.cast_ofNat,
    confine_of_small (by rw [abs_of_nonneg low]; exact high.trans_lt size) (by decide)] at tenth
  obtain ⟨number', product⟩ := mul_value number (ofNat_value 10).1
    (Or.inr (by rw [ten]; exact ⟨EReal.coe_ne_top _, EReal.coe_ne_bot _⟩))
    (Or.inr (by rw [tenth]; exact ⟨EReal.coe_ne_top _, EReal.coe_ne_bot _⟩))
  have back : value (Float.ofNat n) = value (Float.ofNat n / 10.0 * 10.0) := by
    change _ = value (Float.ofNat n / Float.ofNat 10 * Float.ofNat 10)
    rw [product, tenth, ten, ofNat_exact short]
    change ((n : ℝ) : EReal) = nearest ((roundReal (n / 10) : EReal) * ((10 : ℝ) : EReal))
    rw [← EReal.coe_mul, nearest_coe, around,
      confine_of_small (by rwa [Nat.abs_cast]) (by decide)]
  exact (eq_of_value (value_ofNat_ne_zero positive) (ofNat_value n).1 number' back).symm

/-- Not much further up a number is missed. -/
example : Float.ofNat (5 * 2 ^ 50 + 3) / 10.0 * 10.0 = Float.ofNat (5 * 2 ^ 50 + 2) := by
  decide +kernel

theorem div_one_eq {x : Float} (number : IsNumber x) (nonzero : value x ≠ 0) : x / 1.0 = x := by
  have one : ((1 : ℝ) : EReal) = value 1.0 := value_one.symm
  obtain ⟨number', quotient⟩ := div_value number isNumber_one (by rw [value_one]; exact one_ne_zero)
    (Or.inr (by rw [← one]; exact ⟨EReal.coe_ne_top _, EReal.coe_ne_bot _⟩))
  rw [value_one, div_one, nearest_value] at quotient
  exact (eq_of_value nonzero number number' quotient.symm).symm

end NoteChart.Binary64
