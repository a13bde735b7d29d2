import NoteChart.Proofs.Binary64.Digits

/-!
Doubles as extended real numbers. Comparing doubles compares the numbers they stand for, and a sum,
a difference, a product or a quotient of doubles stands for the nearest double to that of their
numbers, wherever it is defined.
-/
namespace NoteChart.Binary64

open Float.Model Float.Model.UnpackedFloat

def IsNumber (x : Float) : Prop := x.isNaN = false

instance (x : Float) : Decidable (IsNumber x) := inferInstanceAs (Decidable (x.isNaN = false))

/-- The number a double stands for. There is none for a NaN. -/
noncomputable def value (x : Float) : EReal := number x.toModel.unpack

theorem isNumber_iff (x : Float) : IsNumber x ↔ x.toModel.unpack ≠ .notANumber := by
  change x.toModel.unpack.isNaN = false ↔ _
  cases x.toModel.unpack <;> simp [UnpackedFloat.isNaN]

theorem nearest_value (x : Float) : nearest (value x) = value x :=
  nearest_number (unpack_canonical x.toModel).1 (unpack_canonical x.toModel).2

theorem compare_notANumber (u : UnpackedFloat) :
    UnpackedFloat.compare .notANumber u = none ∧ UnpackedFloat.compare u .notANumber = none := by
  cases u <;> exact ⟨rfl, rfl⟩

open scoped Classical in
theorem compare_value (x y : Float) :
    x.toModel.unpack.compare y.toModel.unpack =
      if IsNumber x ∧ IsNumber y then some (compare (value x) (value y)) else none := by
  split_ifs with given
  · exact compare_number (unpack_canonical _).1 (unpack_canonical _).1
      ((isNumber_iff x).mp given.1) ((isNumber_iff y).mp given.2)
  · rw [isNumber_iff, isNumber_iff] at given
    by_cases nan : x.toModel.unpack = .notANumber
    · rw [nan]
      exact (compare_notANumber _).1
    · have nan' : y.toModel.unpack = .notANumber := by
        by_contra other
        exact given ⟨nan, other⟩
      rw [nan']
      exact (compare_notANumber _).2

theorem lt_iff {x y : Float} : x < y ↔ IsNumber x ∧ IsNumber y ∧ value x < value y := by
  change decide (x.toModel < y.toModel) = true ↔ _
  rw [decide_eq_true_iff]
  change (x.toModel.unpack.compare y.toModel.unpack == some .lt) = true ↔ _
  rw [compare_value, beq_iff_eq, ← and_assoc]
  split_ifs with given
  · rw [Option.some.injEq, compare_lt_iff_lt]
    exact (and_iff_right given).symm
  · simp [given]

theorem le_iff {x y : Float} : x ≤ y ↔ IsNumber x ∧ IsNumber y ∧ value x ≤ value y := by
  change decide (x.toModel ≤ y.toModel) = true ↔ _
  rw [decide_eq_true_iff]
  change (x.toModel.unpack.compare y.toModel.unpack).any (·.isLE) = true ↔ _
  rw [compare_value, ← and_assoc]
  split_ifs with given
  · rw [Option.any_some, Ordering.isLE_iff_ne_gt, ← ne_eq, compare_le_iff_le]
    exact (and_iff_right given).symm
  · simp [given]

theorem beq_iff {x y : Float} : (x == y) = true ↔ IsNumber x ∧ IsNumber y ∧ value x = value y := by
  change (x.toModel.unpack.compare y.toModel.unpack == some .eq) = true ↔ _
  rw [compare_value, beq_iff_eq, ← and_assoc]
  split_ifs with given
  · rw [Option.some.injEq, compare_eq_iff_eq]
    exact (and_iff_right given).symm
  · simp [given]

def Stands (u : UnpackedFloat) (x : EReal) : Prop :=
  packed u ≠ .notANumber ∧ number (packed u) = x

@[simp] theorem number_infinity_negative : number (.infinity .negative) = ⊥ := rfl

@[simp] theorem number_infinity_positive : number (.infinity .positive) = ⊤ := rfl

@[simp] theorem number_zero (s : Sign) : number (.zero s) = 0 := rfl

theorem number_finite (s : Sign) (m : Nat) (e : Int) (positive : 0 < m) :
    number (.finite s m e positive) = (((s.apply m : Int) * 2 ^ e : ℝ) : EReal) := by
  cases s <;> simp [number_parts, signed, Sign.apply]

theorem Stands.of_eq {u v : UnpackedFloat} {x y : EReal} (stands : Stands u x) (parts : v = u)
    (same : y = x) : Stands v y := by
  rw [parts, same]
  exact stands

theorem stands_infinity (s : Sign) : Stands (.infinity s) (number (.infinity s)) := by
  unfold Stands
  rw [packed_infinity]
  exact ⟨by simp, rfl⟩

theorem stands_zero (s : Sign) : Stands (.zero s) 0 := by
  unfold Stands
  rw [packed_zero]
  exact ⟨by simp, rfl⟩

theorem stands_same {u : UnpackedFloat} (bounds : Canonical u ∧ IsSmall u)
    (given : u ≠ .notANumber) : Stands u (nearest (number u)) := by
  unfold Stands
  rw [packed_small bounds.1 bounds.2, nearest_number bounds.1 bounds.2]
  exact ⟨given, rfl⟩

theorem stands_add_finite (s t : Sign) (m n : Nat) (e f : Int) (hm : 0 < m) (hn : 0 < n) :
    Stands (UnpackedFloat.add Format.binary64 (.finite s m e hm) (.finite t n f hn))
      (nearest (number (.finite s m e hm) + number (.finite t n f hn))) := by
  obtain ⟨_, left⟩ := decreaseExponent_value m (min_le_left e f)
  obtain ⟨_, right⟩ := decreaseExponent_value n (min_le_right e f)
  have apply_value (r : Sign) (k : Nat) : ((r.apply k : Int) : ℝ) = (r.apply 1 : Int) * k := by
    cases r <;> simp [Sign.apply]
  have sum : number (.finite s m e hm) + number (.finite t n f hn) =
      (((s.apply (decreaseExponent m e (min e f)).1 + t.apply (decreaseExponent n f (min e f)).1 :
        Int) * 2 ^ min e f : ℝ) : EReal) := by
    rw [number_finite, number_finite, ← EReal.coe_add, Int.cast_add, add_mul, apply_value s,
      apply_value t, apply_value s, apply_value t, mul_assoc, mul_assoc, mul_assoc, mul_assoc,
      left, right]
  rw [sum]
  exact packed_normalize _ _ _

theorem stands_add {u v : UnpackedFloat} (left : Canonical u ∧ IsSmall u)
    (right : Canonical v ∧ IsSmall v) (hu : u ≠ .notANumber) (hv : v ≠ .notANumber)
    (h₁ : number u ≠ ⊥ ∨ number v ≠ ⊤) (h₂ : number u ≠ ⊤ ∨ number v ≠ ⊥) :
    Stands (UnpackedFloat.add Format.binary64 u v) (nearest (number u + number v)) := by
  cases u with
  | notANumber => exact absurd rfl hu
  | infinity s =>
    have same := stands_infinity s
    cases v with
    | notANumber => exact absurd rfl hv
    | infinity t =>
      cases s <;> cases t
      · exact same.of_eq rfl (by simp)
      · simp at h₁
      · simp at h₂
      · exact same.of_eq rfl (by simp)
    | zero t => cases s <;> exact same.of_eq rfl (by simp)
    | finite t n f hn =>
      rw [number_finite]
      cases s
      · exact same.of_eq rfl (by simp only [number_infinity_negative, EReal.bot_add, nearest_bot])
      · exact same.of_eq rfl (by
          simp only [number_infinity_positive, EReal.top_add_coe, nearest_top])
  | zero s =>
    cases v with
    | notANumber => exact absurd rfl hv
    | infinity t => exact (stands_same right hv).of_eq rfl (by simp)
    | zero t =>
      rw [number_zero, number_zero, add_zero, nearest_zero]
      cases s <;> cases t <;> exact stands_zero _
    | finite t n f hn => exact (stands_same right hv).of_eq rfl (by simp)
  | finite s m e hm =>
    cases v with
    | notANumber => exact absurd rfl hv
    | infinity t =>
      have same := stands_infinity t
      rw [number_finite]
      cases t
      · exact same.of_eq rfl (by simp only [number_infinity_negative, EReal.add_bot, nearest_bot])
      · exact same.of_eq rfl (by
          simp only [number_infinity_positive, EReal.coe_add_top, nearest_top])
    | zero t => exact (stands_same left hu).of_eq rfl (by simp)
    | finite t n f hn => exact stands_add_finite s t m n e f hm hn

theorem add_value {x y : Float} (hx : IsNumber x) (hy : IsNumber y)
    (h₁ : value x ≠ ⊥ ∨ value y ≠ ⊤) (h₂ : value x ≠ ⊤ ∨ value y ≠ ⊥) :
    IsNumber (x + y) ∧ value (x + y) = nearest (value x + value y) := by
  rw [isNumber_iff] at hx hy ⊢
  exact stands_add (unpack_canonical _) (unpack_canonical _) hx hy h₁ h₂

theorem neg_canonical {u : UnpackedFloat} (bounds : Canonical u ∧ IsSmall u) :
    Canonical u.neg ∧ IsSmall u.neg := by
  cases u <;> exact bounds

theorem unpack_neg (x : Float) : (-x).toModel.unpack = x.toModel.unpack.neg := by
  obtain ⟨canonical, small⟩ := neg_canonical (unpack_canonical x.toModel)
  exact packed_small canonical small

theorem number_neg (u : UnpackedFloat) : number u.neg = -number u := by
  have opposite (s : Sign) (x : EReal) : signed (-s) x = -signed s x := by
    cases s
    · exact (neg_neg x).symm
    · rfl
  cases u with
  | notANumber => simp [UnpackedFloat.neg, number]
  | infinity s => exact opposite s ⊤
  | zero s => simp [UnpackedFloat.neg]
  | finite s m e hm => exact opposite s _

theorem neg_value (x : Float) : value (-x) = -value x := by
  unfold value
  rw [unpack_neg, number_neg]

theorem isNumber_neg {x : Float} (hx : IsNumber x) : IsNumber (-x) := by
  rw [isNumber_iff] at hx ⊢
  rw [unpack_neg]
  cases h : x.toModel.unpack <;> simp_all [UnpackedFloat.neg]

theorem sub_eq_add_neg (x y : Float) : x - y = x + -y := by
  have parts : UnpackedFloat.sub Format.binary64 x.toModel.unpack y.toModel.unpack =
      UnpackedFloat.add Format.binary64 x.toModel.unpack (-y).toModel.unpack := by
    rw [unpack_neg]
    have opposite (t : Sign) (n : Nat) : (-t).apply n = -t.apply n := by
      cases t
      · exact (neg_neg _).symm
      · rfl
    cases x.toModel.unpack <;> cases y.toModel.unpack <;>
      simp only [UnpackedFloat.sub, UnpackedFloat.add, UnpackedFloat.neg, opposite,
        ← Int.sub_eq_add_neg]
  exact congrArg (fun u => Float.ofModel (Float.Model.pack u)) parts

theorem sub_value {x y : Float} (hx : IsNumber x) (hy : IsNumber y)
    (h₁ : value x ≠ ⊥ ∨ value y ≠ ⊥) (h₂ : value x ≠ ⊤ ∨ value y ≠ ⊤) :
    IsNumber (x - y) ∧ value (x - y) = nearest (value x - value y) := by
  have sum := add_value hx (isNumber_neg hy) (by simpa [neg_value] using h₁)
    (by simpa [neg_value] using h₂)
  rwa [neg_value, ← sub_eq_add_neg] at sum

theorem signed_mul (s t : Sign) (x y : EReal) :
    signed s x * signed t y = signed (s * t) (x * y) := by
  cases s <;> cases t <;> simp [signed]

theorem finite_mul_pos {m n : Nat} (hm : 0 < m) (hn : 0 < n) {e f : Int} (left : OnGrid m e)
    (right : OnGrid n f) : 2 ^ 52 ≤ m * n ∨ e + f ≤ -1074 := by
  rcases left.2.2 with full | least
  · exact Or.inl (full.trans (Nat.le_mul_of_pos_right m hn))
  rcases right.2.2 with full | least'
  · exact Or.inl (full.trans (Nat.le_mul_of_pos_left n hm))
  · exact Or.inr (by omega)

theorem stands_mul {u v : UnpackedFloat} (left : Canonical u) (right : Canonical v)
    (hu : u ≠ .notANumber) (hv : v ≠ .notANumber)
    (h₁ : number u ≠ 0 ∨ (number v ≠ ⊤ ∧ number v ≠ ⊥))
    (h₂ : number v ≠ 0 ∨ (number u ≠ ⊤ ∧ number u ≠ ⊥)) :
    Stands (UnpackedFloat.mul Format.binary64 u v) (nearest (number u * number v)) := by
  cases u with
  | notANumber => exact absurd rfl hu
  | infinity s =>
    cases v with
    | notANumber => exact absurd rfl hv
    | infinity t =>
      refine (stands_infinity (s * t)).of_eq rfl ?_
      rw [number_infinity, number_infinity, signed_mul, nearest_signed, EReal.top_mul_top,
        nearest_top, number_infinity]
    | zero t => cases s <;> simp at h₂
    | finite t n f hn =>
      refine (stands_infinity (s * t)).of_eq rfl ?_
      rw [number_infinity, number_parts, signed_mul, nearest_signed,
        EReal.top_mul_of_pos (finite_pos hn f), nearest_top, number_infinity]
  | zero s =>
    cases v with
    | notANumber => exact absurd rfl hv
    | infinity t => cases t <;> simp at h₁
    | zero t => exact (stands_zero (s * t)).of_eq rfl (by simp)
    | finite t n f hn => exact (stands_zero (s * t)).of_eq rfl (by simp)
  | finite s m e hm =>
    cases v with
    | notANumber => exact absurd rfl hv
    | infinity t =>
      refine (stands_infinity (s * t)).of_eq rfl ?_
      rw [number_infinity, number_parts, signed_mul, nearest_signed,
        EReal.mul_top_of_pos (finite_pos hm e), nearest_top, number_infinity]
    | zero t => exact (stands_zero (s * t)).of_eq rfl (by simp)
    | finite t n f hn =>
      have product : (m * 2 ^ e : ℝ) * (n * 2 ^ f) = (m * n : Nat) * 2 ^ (e + f) := by
        rw [zpow_add₀ (by norm_num)]
        push_cast
        ring
      have exact_value : number (.finite s m e hm) * number (.finite t n f hn) =
          signed (s * t) (((m * n : Nat) * 2 ^ (e + f) : ℝ) : EReal) := by
        rw [number_parts, number_parts, signed_mul, ← EReal.coe_mul, product]
      rw [exact_value]
      exact packed_exact (s * t) (m * n) (e + f) (Nat.mul_pos hm hn)
        (finite_mul_pos hm hn left right)

theorem mul_value {x y : Float} (hx : IsNumber x) (hy : IsNumber y)
    (h₁ : value x ≠ 0 ∨ (value y ≠ ⊤ ∧ value y ≠ ⊥))
    (h₂ : value y ≠ 0 ∨ (value x ≠ ⊤ ∧ value x ≠ ⊥)) :
    IsNumber (x * y) ∧ value (x * y) = nearest (value x * value y) := by
  rw [isNumber_iff] at hx hy ⊢
  exact stands_mul (unpack_canonical _).1 (unpack_canonical _).1 hx hy h₁ h₂

theorem signed_div (s t : Sign) (x y : EReal) :
    signed s x / signed t y = signed (s / t) (x / y) := by
  cases s <;> cases t <;> simp [signed, div_eq_mul_inv, EReal.inv_neg] <;> rfl

theorem stands_div_finite (s t : Sign) {m n : Nat} {e f : Int} (hm : 0 < m) (hn : 0 < n) :
    Stands (UnpackedFloat.div Format.binary64 (.finite s m e hm) (.finite t n f hn))
      (nearest (number (.finite s m e hm) / number (.finite t n f hn))) := by
  have numerator : (0 : ℝ) < m := by exact_mod_cast hm
  have denominator : (0 : ℝ) < n := by exact_mod_cast hn
  have exact_value : number (.finite s m e hm) / number (.finite t n f hn) =
      signed (s / t) ((m * 2 ^ e / (n * 2 ^ f) : ℝ) : EReal) := by
    rw [number_parts, number_parts, signed_div, ← EReal.coe_div]
  rw [exact_value]
  let g := min (e - f) (max ((m.log2 : Int) - n.log2 + (e - f) - 53) (-1074))
  have target : min (e - f) (Format.binary64.targetExponent
      (totalExponent m e - totalExponent n f)) = g := by
    change min (e - f) (max ((m.log2 : Int) + 1 + e - (n.log2 + 1 + f) - 53) (-1074)) = _
    simp only [g]
    congr 2
    omega
  let d := (e - f - g).toNat
  have steps : (d : Int) = e - f - g := Int.toNat_of_nonneg (by omega)
  have marks : Marks (.ofMantissaAndAccuracy (m * 2 ^ d / n) (accuracyOfFraction (m * 2 ^ d % n) n))
      ((m * 2 ^ e / (n * 2 ^ f) : ℝ) / 2 ^ g) := by
    have place : (m * 2 ^ e / (n * 2 ^ f) : ℝ) / 2 ^ g =
        (m * 2 ^ d / n : Nat) + ((m * 2 ^ d % n : Nat) : ℝ) / n := by
      have grids : (2 : ℝ) ^ e / 2 ^ f / 2 ^ g = 2 ^ d := by
        rw [← zpow_sub₀ (by norm_num), ← zpow_sub₀ (by norm_num), ← steps, zpow_natCast]
      have division : ((m * 2 ^ d : Nat) : ℝ) =
          n * (m * 2 ^ d / n : Nat) + (m * 2 ^ d % n : Nat) := by
        exact_mod_cast (Nat.div_add_mod (m * 2 ^ d) n).symm
      calc (m * 2 ^ e / (n * 2 ^ f) : ℝ) / 2 ^ g = m * ((2 : ℝ) ^ e / 2 ^ f / 2 ^ g) / n := by
            field_simp
        _ = ((m * 2 ^ d : Nat) : ℝ) / n := by rw [grids]; push_cast; rfl
        _ = _ := by rw [division]; field_simp
    rw [place]
    exact marks_fraction _ _ _ (Nat.mod_lt _ hn)
  have enough : 2 ^ 52 ≤ m * 2 ^ d / n ∨ g ≤ -1074 := by
    by_cases least : g ≤ -1074
    · exact Or.inr least
    · left
      have digits : 53 + n.log2 ≤ m.log2 + d := by omega
      rw [Nat.le_div_iff_mul_le hn]
      calc 2 ^ 52 * n ≤ 2 ^ 52 * 2 ^ (n.log2 + 1) := Nat.mul_le_mul_left _ Nat.lt_log2_self.le
        _ = 2 ^ (53 + n.log2) := by rw [← pow_add]; congr 1; omega
        _ ≤ 2 ^ (m.log2 + d) := Nat.pow_le_pow_right (by decide) digits
        _ = 2 ^ m.log2 * 2 ^ d := pow_add _ _ _
        _ ≤ m * 2 ^ d := Nat.mul_le_mul_right _ (Nat.log2_self_le hm.ne')
  refine Stands.of_eq (packed_round (s / t) (by positivity) marks enough) ?_ rfl
  simp only [UnpackedFloat.div, divCore, target, Nat.shiftLeft_eq]
  rfl

theorem stands_div {u v : UnpackedFloat} (hu : u ≠ .notANumber) (hv : v ≠ .notANumber)
    (divisor : number v ≠ 0)
    (h : (number u ≠ ⊤ ∧ number u ≠ ⊥) ∨ (number v ≠ ⊤ ∧ number v ≠ ⊥)) :
    Stands (UnpackedFloat.div Format.binary64 u v) (nearest (number u / number v)) := by
  cases v with
  | notANumber => exact absurd rfl hv
  | zero t => exact absurd rfl divisor
  | infinity t =>
    cases u with
    | notANumber => exact absurd rfl hu
    | infinity s => cases s <;> cases t <;> simp at h
    | zero s => exact (stands_zero (s / t)).of_eq rfl (by simp)
    | finite s m e hm => exact (stands_zero (s / t)).of_eq rfl (by cases t <;> simp)
  | finite t n f hn =>
    cases u with
    | notANumber => exact absurd rfl hu
    | infinity s =>
      refine (stands_infinity (s / t)).of_eq rfl ?_
      rw [number_infinity, number_parts, signed_div, nearest_signed,
        EReal.top_div_of_pos_ne_top (finite_pos hn f) (EReal.coe_ne_top _), nearest_top,
        number_infinity]
    | zero s => exact (stands_zero (s / t)).of_eq rfl (by simp)
    | finite s m e hm => exact stands_div_finite s t hm hn

theorem div_value {x y : Float} (hx : IsNumber x) (hy : IsNumber y) (divisor : value y ≠ 0)
    (h : (value x ≠ ⊤ ∧ value x ≠ ⊥) ∨ (value y ≠ ⊤ ∧ value y ≠ ⊥)) :
    IsNumber (x / y) ∧ value (x / y) = nearest (value x / value y) := by
  rw [isNumber_iff] at hx hy ⊢
  exact stands_div hx hy divisor h

end NoteChart.Binary64
