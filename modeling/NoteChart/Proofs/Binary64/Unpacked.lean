import NoteChart.Proofs.Binary64.Rounding

/-!
The doubles of the logic, taken apart. A finite one that is not zero has a sign, a whole mantissa
and an exponent, and it is on the grid of its magnitude. So its parts are those of one number, the
order of the parts is the order of numbers, and packing the parts into a word loses nothing but what
is past the range.
-/
namespace NoteChart.Binary64

open Float.Model Float.Model.UnpackedFloat

/-- All digits are kept that the magnitude allows, and no more. -/
def OnGrid (m : Nat) (e : Int) : Prop :=
  m < 2 ^ 53 ∧ -1074 ≤ e ∧ (2 ^ 52 ≤ m ∨ e = -1074)

def Canonical : UnpackedFloat → Prop
  | .finite _ m e _ => OnGrid m e
  | _ => True

def IsSmall : UnpackedFloat → Prop
  | .finite _ _ e _ => e ≤ 971
  | _ => True

noncomputable def signed (s : Sign) (x : EReal) : EReal :=
  match s with
  | .negative => -x
  | .positive => x

/-- The number an unpacked double stands for. There is none for a NaN. -/
noncomputable def number : UnpackedFloat → EReal
  | .notANumber => 0
  | .infinity s => signed s ⊤
  | .zero _ => 0
  | .finite s m e _ => signed s (scaled m e)

theorem number_infinity (s : Sign) : number (.infinity s) = signed s ⊤ := rfl

theorem number_parts (s : Sign) (m : Nat) (e : Int) (positive : 0 < m) :
    number (.finite s m e positive) = signed s ((m * 2 ^ e : ℝ) : EReal) := rfl

def exponentPart (b : UInt64) : Nat := b.toNat / 2 ^ 52 % 2 ^ 11

def mantissaPart (b : UInt64) : Nat := b.toNat % 2 ^ 52

def signPart (b : UInt64) : Sign := if b.toNat < 2 ^ 63 then .positive else .negative

theorem unpackExponent_toNat (b : UInt64) :
    (@unpackExponent Format.binary64 b.toBitVec).toNat = exponentPart b := by
  simp [unpackExponent, exponentPart, Nat.shiftRight_eq_div_pow]

theorem unpackMantissa_toNat (b : UInt64) :
    (@unpackMantissa Format.binary64 b.toBitVec).toNat = mantissaPart b := by
  simp [unpackMantissa, mantissaPart]

theorem unpackSign_eq (b : UInt64) :
    Sign.ofBitVec (@unpackSign Format.binary64 b.toBitVec) = signPart b := by
  have bit : (@unpackSign Format.binary64 b.toBitVec).toNat = b.toNat / 2 ^ 63 := by
    have word : b.toNat < 2 ^ 64 := b.toNat_lt
    simp [unpackSign, Nat.shiftRight_eq_div_pow]
    omega
  have clear : @unpackSign Format.binary64 b.toBitVec = 0#1 ↔ b.toNat < 2 ^ 63 := by
    rw [← BitVec.toNat_inj, bit, BitVec.toNat_ofNat]
    omega
  unfold Sign.ofBitVec signPart
  simp only [clear]

theorem unpack_word (b : UInt64) :
    UnpackedFloat.unpack Format.binary64 b.toBitVec =
      if exponentPart b = 2047 then
        if mantissaPart b = 0 then .infinity (signPart b) else .notANumber
      else if exponentPart b = 0 then
        if h : mantissaPart b = 0 then .zero (signPart b)
        else .finite (signPart b) (mantissaPart b) (-1074) (Nat.pos_of_ne_zero h)
      else .finite (signPart b) (2 ^ 52 + mantissaPart b) ((exponentPart b : Int) - 1075)
        (by omega) := by
  have full : @unpackExponent Format.binary64 b.toBitVec = -1#_ ↔ exponentPart b = 2047 := by
    rw [← unpackExponent_toNat, ← BitVec.toNat_inj]
    rfl
  have least : @unpackExponent Format.binary64 b.toBitVec = 0#_ ↔ exponentPart b = 0 := by
    rw [← unpackExponent_toNat, ← BitVec.toNat_inj]
    rfl
  have empty : @unpackMantissa Format.binary64 b.toBitVec = 0#_ ↔ mantissaPart b = 0 := by
    rw [← unpackMantissa_toNat, ← BitVec.toNat_inj]
    rfl
  have leading : (1#1 ++ @unpackMantissa Format.binary64 b.toBitVec).toNat =
      2 ^ 52 + mantissaPart b := by
    rw [BitVec.toNat_append, ← unpackMantissa_toNat,
      ← Nat.shiftLeft_add_eq_or_of_lt (BitVec.isLt _)]
    rfl
  have bias : (Format.binary64.exponentBias : Int) = 1023 := rfl
  unfold UnpackedFloat.unpack
  simp only [full, least, empty, leading, unpackExponent_toNat, unpackMantissa_toNat,
    unpackSign_eq, bias]
  split_ifs with _ _ zero
  · rfl
  · rfl
  · rfl
  · rw [UnpackedFloat.finite.injEq]
    exact ⟨rfl, rfl, by omega⟩
  · rw [UnpackedFloat.finite.injEq]
    exact ⟨rfl, rfl, by omega⟩

theorem mantissaPart_lt (b : UInt64) : mantissaPart b < 2 ^ 52 := Nat.mod_lt _ (by decide)

theorem exponentPart_lt (b : UInt64) : exponentPart b < 2 ^ 11 := Nat.mod_lt _ (by decide)

theorem unpack_canonical (x : Float.Model) : Canonical x.unpack ∧ IsSmall x.unpack := by
  have exponent := exponentPart_lt x.toBits
  have mantissa := mantissaPart_lt x.toBits
  unfold Float.Model.unpack
  rw [unpack_word]
  split_ifs with full empty least empty'
  · exact ⟨trivial, trivial⟩
  · exact ⟨trivial, trivial⟩
  · exact ⟨trivial, trivial⟩
  · exact ⟨⟨by omega, by omega, Or.inr rfl⟩, by simp [IsSmall]⟩
  · refine ⟨⟨by omega, by omega, Or.inl (by omega)⟩, ?_⟩
    simp only [IsSmall]
    omega

theorem packComponents_toNat (s : Sign) (e : BitVec 11) (m : BitVec 52) :
    (packComponents Format.binary64 s e m).toNat =
      (s.toBitVec.toNat * 2 ^ 11 + e.toNat) * 2 ^ 52 + m.toNat := by
  change (s.toBitVec ++ e ++ m).toNat = _
  rw [BitVec.toNat_append, ← Nat.shiftLeft_add_eq_or_of_lt m.isLt, BitVec.toNat_append,
    ← Nat.shiftLeft_add_eq_or_of_lt e.isLt, Nat.shiftLeft_eq, Nat.shiftLeft_eq]

theorem parts_of_components (s : Sign) (e : BitVec 11) (m : BitVec 52) :
    let b := UInt64.ofBitVec (packComponents Format.binary64 s e m)
    signPart b = s ∧ exponentPart b = e.toNat ∧ mantissaPart b = m.toNat := by
  intro b
  have word : b.toNat = (s.toBitVec.toNat * 2 ^ 11 + e.toNat) * 2 ^ 52 + m.toNat :=
    packComponents_toNat s e m
  have exponent := e.isLt
  have mantissa := m.isLt
  refine ⟨?_, ?_, ?_⟩
  · unfold signPart
    rw [word]
    cases s
    · exact if_neg (by simp only [Sign.toBitVec, BitVec.toNat_ofNat]; omega)
    · exact if_pos (by simp only [Sign.toBitVec, BitVec.toNat_ofNat]; omega)
  · unfold exponentPart
    omega
  · unfold mantissaPart
    omega

theorem unpack_components (s : Sign) (e m : Nat) (exponent : e < 2047) (mantissa : m < 2 ^ 52) :
    UnpackedFloat.unpack Format.binary64
        (packComponents Format.binary64 s (BitVec.ofNat 11 e) (BitVec.ofNat 52 m)) =
      if e = 0 then
        if h : m = 0 then .zero s else .finite s m (-1074) (Nat.pos_of_ne_zero h)
      else .finite s (2 ^ 52 + m) ((e : Int) - 1075) (by omega) := by
  have parts := parts_of_components s (BitVec.ofNat 11 e) (BitVec.ofNat 52 m)
  rw [BitVec.toNat_ofNat, BitVec.toNat_ofNat, Nat.mod_eq_of_lt (by omega),
    Nat.mod_eq_of_lt mantissa] at parts
  have word := unpack_word
    (UInt64.ofBitVec (packComponents Format.binary64 s (BitVec.ofNat 11 e) (BitVec.ofNat 52 m)))
  simp only [parts.1, parts.2.1, parts.2.2, show e ≠ 2047 by omega, if_false] at word
  exact word

def packed (u : UnpackedFloat) : UnpackedFloat := (Float.Model.pack u).unpack

theorem packed_notANumber : packed .notANumber = .notANumber := rfl

theorem packed_infinity (s : Sign) : packed (.infinity s) = .infinity s := by
  cases s <;> rfl

theorem packed_zero (s : Sign) : packed (.zero s) = .zero s := by
  cases s <;> rfl

theorem pack_finite (s : Sign) (m : Nat) (e : Int) (positive : 0 < m) :
    UnpackedFloat.pack Format.binary64 (.finite s m e positive) =
      if 2047 ≤ (e + 1075).toNat then packedInfinity Format.binary64 s
      else if m.log2 = 52 then
        packComponents Format.binary64 s (BitVec.ofNat 11 (e + 1075).toNat) (BitVec.ofNat 52 m)
      else packComponents Format.binary64 s (BitVec.ofNat 11 0) (BitVec.ofNat 52 m) := by
  have biased : (e + (Format.binary64.exponentBias : Int) +
      (Format.binary64.mantissaBitsWithoutImplicit : Int)).toNat = (e + 1075).toNat := by
    change (e + 1023 + 52).toNat = _
    congr 1
    omega
  have far : 2 ^ 11 ≤ (e + 1075).toNat + 1 ↔ 2047 ≤ (e + 1075).toNat := by omega
  have full : m.log2 + 1 = Format.binary64.mantissaBits ↔ m.log2 = 52 := by
    change m.log2 + 1 = 53 ↔ _
    omega
  unfold UnpackedFloat.pack
  simp only [biased, far, full]

theorem packed_past (s : Sign) (m : Nat) (e : Int) (positive : 0 < m) (past : 971 < e) :
    packed (.finite s m e positive) = .infinity s := by
  have word : Float.Model.pack (.finite s m e positive) = Float.Model.pack (.infinity s) := by
    unfold Float.Model.pack
    congr 1
    rw [pack_finite, if_pos (by omega)]
    rfl
  unfold packed
  rw [word]
  exact packed_infinity s

theorem packed_finite (s : Sign) (m : Nat) (e : Int) (positive : 0 < m) (grid : OnGrid m e)
    (small : e ≤ 971) : packed (.finite s m e positive) = .finite s m e positive := by
  obtain ⟨digits, least, normal⟩ := grid
  unfold packed Float.Model.unpack Float.Model.pack
  change UnpackedFloat.unpack Format.binary64 (UnpackedFloat.pack Format.binary64 _) = _
  rw [pack_finite, if_neg (by omega)]
  -- the leading digit of a full mantissa is not kept in the word, but told by the exponent
  by_cases full : 2 ^ 52 ≤ m
  · have log : m.log2 = 52 := (Nat.log2_eq_iff positive.ne').mpr ⟨full, digits⟩
    have tail : BitVec.ofNat 52 m = BitVec.ofNat 52 (m - 2 ^ 52) := by
      apply BitVec.eq_of_toNat_eq
      rw [BitVec.toNat_ofNat, BitVec.toNat_ofNat]
      omega
    rw [if_pos log, tail, unpack_components _ _ _ (by omega) (by omega), if_neg (by omega),
      UnpackedFloat.finite.injEq]
    exact ⟨rfl, by omega, by omega⟩
  · have log : ¬ m.log2 = 52 := by
      have upper := (Nat.log2_lt positive.ne').mpr (Nat.lt_of_not_le full)
      omega
    rw [if_neg log, unpack_components _ _ _ (by omega) (by omega), if_pos rfl,
      dif_neg (by omega), UnpackedFloat.finite.injEq]
    exact ⟨rfl, rfl, by omega⟩

theorem grid_lt {m n : Nat} {e f : Int} (left : OnGrid m e) (right : OnGrid n f)
    (order : e < f ∨ e = f ∧ m < n) : (m : ℝ) * 2 ^ e < n * 2 ^ f := by
  rcases order with exponents | ⟨rfl, mantissas⟩
  · have digits : (m : ℝ) < 2 ^ (53 : ℤ) := by exact_mod_cast left.1
    have normal : 2 ^ 52 ≤ n := by
      have least := left.2.1
      exact right.2.2.resolve_right (by omega)
    have leading : (2 : ℝ) ^ (52 : ℤ) ≤ n := by exact_mod_cast normal
    calc (m : ℝ) * 2 ^ e < 2 ^ (53 : ℤ) * 2 ^ e := mul_lt_mul_of_pos_right digits (by positivity)
      _ = 2 ^ (53 + e) := (zpow_add₀ (by norm_num) _ _).symm
      _ ≤ 2 ^ (52 + f) := zpow_le_zpow_right₀ (by norm_num) (by omega)
      _ = 2 ^ (52 : ℤ) * 2 ^ f := zpow_add₀ (by norm_num) _ _
      _ ≤ n * 2 ^ f := mul_le_mul_of_nonneg_right leading (by positivity)
  · exact mul_lt_mul_of_pos_right (by exact_mod_cast mantissas) (by positivity)

theorem compare_parts {m n : Nat} {e f : Int} (left : OnGrid m e) (right : OnGrid n f) :
    (compare e f).then (compare m n) = compare ((m : ℝ) * 2 ^ e) (n * 2 ^ f) := by
  rcases lt_trichotomy e f with exponents | rfl | exponents
  · rw [compare_lt_iff_lt.mpr exponents,
      compare_lt_iff_lt.mpr (grid_lt left right (Or.inl exponents))]
    rfl
  · rw [compare_eq_iff_eq.mpr rfl, Ordering.eq_then]
    rcases lt_trichotomy m n with mantissas | rfl | mantissas
    · rw [compare_lt_iff_lt.mpr mantissas,
        compare_lt_iff_lt.mpr (grid_lt left right (Or.inr ⟨rfl, mantissas⟩))]
    · rw [compare_eq_iff_eq.mpr rfl, compare_eq_iff_eq.mpr rfl]
    · rw [compare_gt_iff_gt.mpr mantissas,
        compare_gt_iff_gt.mpr (grid_lt right left (Or.inr ⟨rfl, mantissas⟩))]
  · rw [compare_gt_iff_gt.mpr exponents,
      compare_gt_iff_gt.mpr (grid_lt right left (Or.inl exponents))]
    rfl

theorem compare_coe (x y : ℝ) : compare (x : EReal) y = compare x y := by
  rw [← cmp_eq_compare, ← cmp_eq_compare]
  exact EReal.coe_strictMono.cmp_map_eq x y

theorem compare_neg (x y : EReal) : compare (-x) (-y) = (compare x y).swap := by
  rw [← cmp_eq_compare, ← cmp_eq_compare, cmp_swap]
  exact EReal.neg_strictAnti.cmp_map_eq x y

theorem finite_pos {m : Nat} (positive : 0 < m) (e : Int) :
    (0 : EReal) < ((m * 2 ^ e : ℝ) : EReal) := by
  have mantissa : (0 : ℝ) < m := by exact_mod_cast positive
  exact_mod_cast (by positivity : (0 : ℝ) < m * 2 ^ e)

theorem compare_of_lt {x y : EReal} (order : x < y) :
    some (compare x y) = some .lt ∧ some (compare y x) = some .gt :=
  ⟨congrArg some (compare_lt_iff_lt.mpr order), congrArg some (compare_gt_iff_gt.mpr order)⟩

/-- Comparing the parts of two doubles is comparing the numbers they stand for. -/
theorem compare_number {u v : UnpackedFloat} (left : Canonical u) (right : Canonical v)
    (hu : u ≠ .notANumber) (hv : v ≠ .notANumber) :
    UnpackedFloat.compare u v = some (compare (number u) (number v)) := by
  have equal (x : EReal) : some Ordering.eq = some (compare x x) :=
    congrArg some (compare_eq_iff_eq.mpr rfl).symm
  cases u with
  | notANumber => exact absurd rfl hu
  | infinity s =>
    cases v with
    | notANumber => exact absurd rfl hv
    | infinity t =>
      cases s <;> cases t
      · exact equal _
      · exact (compare_of_lt (by simp [number, signed])).1.symm
      · exact (compare_of_lt (by simp [number, signed])).2.symm
      · exact equal _
    | zero t =>
      cases s
      · exact (compare_of_lt (by simp [number, signed])).1.symm
      · exact (compare_of_lt (by simp [number, signed])).2.symm
    | finite t n f hn =>
      have small := EReal.coe_lt_top ((n : ℝ) * 2 ^ f)
      have small' := EReal.bot_lt_coe ((n : ℝ) * 2 ^ f)
      cases s <;> cases t
      · exact (compare_of_lt (EReal.neg_lt_neg_iff.mpr small)).1.symm
      · exact (compare_of_lt small').1.symm
      · exact (compare_of_lt (EReal.neg_lt_comm.mpr small')).2.symm
      · exact (compare_of_lt small).2.symm
  | zero s =>
    cases v with
    | notANumber => exact absurd rfl hv
    | infinity t =>
      cases t
      · exact (compare_of_lt (by simp [number, signed])).2.symm
      · exact (compare_of_lt (by simp [number, signed])).1.symm
    | zero t => exact equal 0
    | finite t n f hn =>
      have positive := finite_pos hn f
      cases t
      · exact (compare_of_lt (EReal.neg_lt_zero.mpr positive)).2.symm
      · exact (compare_of_lt positive).1.symm
  | finite s m e hm =>
    have positive := finite_pos hm e
    cases v with
    | notANumber => exact absurd rfl hv
    | infinity t =>
      have small := EReal.coe_lt_top ((m : ℝ) * 2 ^ e)
      have small' := EReal.bot_lt_coe ((m : ℝ) * 2 ^ e)
      cases s <;> cases t
      · exact (compare_of_lt (EReal.neg_lt_neg_iff.mpr small)).2.symm
      · exact (compare_of_lt (EReal.neg_lt_comm.mpr small')).1.symm
      · exact (compare_of_lt small').2.symm
      · exact (compare_of_lt small).1.symm
    | zero t =>
      cases s
      · exact (compare_of_lt (EReal.neg_lt_zero.mpr positive)).1.symm
      · exact (compare_of_lt positive).2.symm
    | finite t n f hn =>
      have positive' := finite_pos hn f
      have parts := compare_parts left right
      rw [← compare_coe] at parts
      cases s <;> cases t
      · refine congrArg some ?_
        change ((compare e f).then (compare m n)).swap = compare (-scaled m e) (-scaled n f)
        rw [parts, compare_neg, scaled, scaled]
      · exact (compare_of_lt ((EReal.neg_lt_zero.mpr positive).trans positive')).1.symm
      · exact (compare_of_lt ((EReal.neg_lt_zero.mpr positive').trans positive)).2.symm
      · exact congrArg some parts

end NoteChart.Binary64
