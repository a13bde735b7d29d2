import NoteChart.Proofs.Binary64.Arithmetic
import NoteChart.Binary64.Order

/-!
The order of doubles. Doubles that are numbers are in a linear order, the arithmetic operations keep
it, and the only care to take is with infinities: no operation below meets a pair of operands that
has no result.
-/
namespace NoteChart.Binary64

open Float.Model Float.Model.UnpackedFloat

variable {a b c d x y z : Float}

protected theorem le_refl (hx : IsNumber x) : x ≤ x :=
  le_iff.mpr ⟨hx, hx, le_rfl⟩

protected theorem le_trans (first : x ≤ y) (second : y ≤ z) : x ≤ z := by
  obtain ⟨hx, -, below⟩ := le_iff.mp first
  obtain ⟨-, hz, below'⟩ := le_iff.mp second
  exact le_iff.mpr ⟨hx, hz, below.trans below'⟩

protected theorem lt_of_lt_of_le (first : x < y) (second : y ≤ z) : x < z := by
  obtain ⟨hx, -, below⟩ := lt_iff.mp first
  obtain ⟨-, hz, below'⟩ := le_iff.mp second
  exact lt_iff.mpr ⟨hx, hz, below.trans_le below'⟩

protected theorem lt_of_le_of_lt (first : x ≤ y) (second : y < z) : x < z := by
  obtain ⟨hx, -, below⟩ := le_iff.mp first
  obtain ⟨-, hz, below'⟩ := lt_iff.mp second
  exact lt_iff.mpr ⟨hx, hz, below.trans_lt below'⟩

protected theorem le_of_lt (below : x < y) : x ≤ y := by
  obtain ⟨hx, hy, values⟩ := lt_iff.mp below
  exact le_iff.mpr ⟨hx, hy, values.le⟩

protected theorem not_lt (hx : IsNumber x) (hy : IsNumber y) : ¬x < y ↔ y ≤ x := by
  rw [lt_iff, le_iff]
  simp [hx, hy]

protected theorem beq_self (hx : IsNumber x) : (x == x) = true := beq_iff.mpr ⟨hx, hx, rfl⟩

protected theorem beq_comm (x y : Float) : (x == y) = (y == x) := by
  rw [Bool.eq_iff_iff, beq_iff, beq_iff]
  tauto

protected theorem beq_trans (first : (x == y) = true) (second : (y == z) = true) :
    (x == z) = true := by
  rw [beq_iff] at *
  exact ⟨first.1, second.2.1, first.2.2.trans second.2.2⟩

theorem isNumber_of_le (below : x ≤ y) : IsNumber x ∧ IsNumber y :=
  ⟨(le_iff.mp below).1, (le_iff.mp below).2.1⟩

protected theorem not_lt_of_le (below : x ≤ y) : ¬y < x :=
  (Binary64.not_lt (isNumber_of_le below).2 (isNumber_of_le below).1).mpr below

theorem isFinite_iff : x.isFinite = true ↔ IsNumber x ∧ value x ≠ ⊤ ∧ value x ≠ ⊥ := by
  rw [isNumber_iff]
  change x.toModel.unpack.isFinite = true ↔
    _ ∧ number x.toModel.unpack ≠ ⊤ ∧ number x.toModel.unpack ≠ ⊥
  cases x.toModel.unpack with
  | notANumber => simp [UnpackedFloat.isFinite]
  | infinity s => cases s <;> simp [UnpackedFloat.isFinite]
  | zero s => simp [UnpackedFloat.isFinite]
  | finite s m e hm => simp [UnpackedFloat.isFinite, number_finite, -EReal.coe_mul]

theorem isNumber_of_finite (finite : x.isFinite = true) : IsNumber x := (isFinite_iff.mp finite).1

theorem isFinite_of_between (low : a ≤ x) (high : x ≤ b) (ha : a.isFinite = true)
    (hb : b.isFinite = true) : x.isFinite = true := by
  obtain ⟨-, hx, low⟩ := le_iff.mp low
  obtain ⟨-, -, high⟩ := le_iff.mp high
  refine isFinite_iff.mpr ⟨hx, ?_, ?_⟩
  · exact (high.trans_lt (lt_top_iff_ne_top.mpr (isFinite_iff.mp hb).2.1)).ne
  · exact ((bot_lt_iff_ne_bot.mpr (isFinite_iff.mp ha).2.2).trans_le low).ne'

theorem unpack_zero : (0.0 : Float).toModel.unpack = .zero .positive := rfl

theorem unpack_one :
    (1.0 : Float).toModel.unpack = .finite .positive (2 ^ 52) (-52) (by decide) := rfl

@[simp] theorem isNumber_zero : IsNumber 0.0 := rfl

@[simp] theorem isNumber_one : IsNumber 1.0 := rfl

@[simp] theorem isNumber_negInfinity : IsNumber negInfinity := rfl

@[simp] theorem value_zero : value 0.0 = 0 := by
  unfold value
  rw [unpack_zero, number_zero]

@[simp] theorem value_one : value 1.0 = 1 := by
  unfold value
  rw [unpack_one, number_parts]
  norm_num [signed]

theorem nonneg_iff : 0.0 ≤ x ↔ IsNumber x ∧ 0 ≤ value x := by
  simp [le_iff]

theorem pos_iff : 0.0 < x ↔ IsNumber x ∧ 0 < value x := by
  simp [lt_iff]

theorem toFloat_value (n : UInt64) : IsNumber n.toFloat ∧ value n.toFloat = nearest n.toNat := by
  have same := packed_normalize n.toNat 0 .positive
  simp only [zpow_zero, mul_one, Int.cast_natCast, EReal.coe_natCast] at same
  exact ⟨(isNumber_iff _).mpr same.1, same.2⟩

theorem stands_tens {m e : Nat} (positive : 0 < m) (moderate : e ≤ 2 ^ 11) :
    Stands (UnpackedFloat.ofScientific Format.binary64 m e)
      (nearest ((m * 10 ^ e : ℝ) : EReal)) := by
  have word : UnpackedFloat.ofScientific Format.binary64 m e =
      roundWithAccuracy Format.binary64 .positive (m <<< 53 * 10 ^ e) (-53 + 0) .exact := by
    have outside : ¬(e : Int) > 2 ^ Format.binary64.exponentBits := by
      change ¬(e : Int) > 2 ^ 11
      omega
    have inside : ¬(e : Int) < -(2 ^ Format.binary64.exponentBits + m.log2) := by
      change ¬(e : Int) < -(2 ^ 11 + m.log2)
      omega
    rw [UnpackedFloat.ofScientific, dif_neg positive.ne', if_neg outside, if_neg inside,
      if_pos (Int.natCast_nonneg e), UnpackedFloat.mul, Int.toNat_natCast,
      show Format.binary64.mantissaBits = 53 from rfl]
    congr 1
  have enough : 2 ^ 52 ≤ m <<< 53 * 10 ^ e := by
    rw [Nat.shiftLeft_eq]
    calc 2 ^ 52 ≤ 2 ^ 53 := by decide
      _ ≤ m * 2 ^ 53 := Nat.le_mul_of_pos_left _ positive
      _ ≤ m * 2 ^ 53 * 10 ^ e := Nat.le_mul_of_pos_right _ (by positivity)
  have exact_value : ((m <<< 53 * 10 ^ e : Nat) : ℝ) * 2 ^ (-53 + 0 : ℤ) = m * 10 ^ e := by
    rw [Nat.shiftLeft_eq, add_zero, zpow_neg]
    push_cast
    field_simp
    norm_num
  have rounded := packed_exact .positive (m <<< 53 * 10 ^ e) (-53 + 0)
    (lt_of_lt_of_le (by decide) enough) (Or.inl enough)
  rw [exact_value, ← word] at rounded
  exact rounded

/-- Small counts are exact, and larger ones are rounded once. -/
theorem ofNat_value (n : Nat) : IsNumber (.ofNat n) ∧ value (.ofNat n) = nearest n := by
  by_cases small : n < 2 ^ 53
  · have product : Float.ofNat n = n.toUInt64.toFloat * 1.0 := by
      change Float.ofScientific n false 0 = _
      rw [Float.ofScientific, dif_pos ⟨small, by decide⟩]
      rfl
    have same : n.toUInt64.toNat = n := UInt64.toNat_ofNat_of_lt' (small.trans (by decide))
    obtain ⟨number, rounded⟩ := toFloat_value n.toUInt64
    rw [same] at rounded
    have result := mul_value number isNumber_one (Or.inr (by simp [← EReal.coe_one]))
      (Or.inl (by simp))
    rwa [← product, value_one, mul_one, nearest_value, rounded] at result
  · have parts : Float.ofNat n = .ofModel (.ofScientific n 0) := by
      change Float.ofScientific n false 0 = _
      rw [Float.ofScientific, dif_neg (fun fast => small fast.1)]
      rfl
    have rounded := stands_tens (m := n) (e := 0) (by omega) (by decide)
    rw [pow_zero, mul_one, EReal.coe_natCast] at rounded
    rw [parts, isNumber_iff]
    exact rounded

theorem ofNat_nonneg (n : Nat) : 0.0 ≤ Float.ofNat n := by
  rw [nonneg_iff, (ofNat_value n).2]
  exact ⟨(ofNat_value n).1, by simpa using nearest_mono (Nat.cast_nonneg' (α := EReal) n)⟩

theorem ofNat_mono {m n : Nat} (below : m ≤ n) : Float.ofNat m ≤ Float.ofNat n := by
  rw [le_iff, (ofNat_value m).2, (ofNat_value n).2]
  exact ⟨(ofNat_value m).1, (ofNat_value n).1, nearest_mono (by exact_mod_cast below)⟩

theorem ofNat_isFinite {n : Nat} (word : n < UInt64.size) : (Float.ofNat n).isFinite = true :=
  isFinite_of_between (ofNat_nonneg n) (ofNat_mono word.le) (by decide) (by decide)

theorem ofNat_pos {n : Nat} (positive : 0 < n) : 0.0 < Float.ofNat n :=
  Binary64.lt_of_lt_of_le (by decide) (ofNat_mono positive)

theorem value_ofNat_ne_zero {n : Nat} (positive : 0 < n) : value (.ofNat n) ≠ 0 :=
  (pos_iff.mp (ofNat_pos positive)).2.ne'

theorem isNumber_add (finite : a.isFinite = true) (hc : IsNumber c) : IsNumber (a + c) := by
  obtain ⟨ha, top, bot⟩ := isFinite_iff.mp finite
  exact (add_value ha hc (Or.inl bot) (Or.inl top)).1

theorem isNumber_sub (ha : IsNumber a) (finite : c.isFinite = true) : IsNumber (a - c) := by
  obtain ⟨hc, top, bot⟩ := isFinite_iff.mp finite
  exact (sub_value ha hc (Or.inr bot) (Or.inr top)).1

protected theorem add_le_add (left : a ≤ b) (right : c ≤ d) (ha : a.isFinite = true)
    (hb : b.isFinite = true) : a + c ≤ b + d := by
  obtain ⟨hc, hd, rights⟩ := le_iff.mp right
  obtain ⟨na, top, bot⟩ := isFinite_iff.mp ha
  obtain ⟨nb, top', bot'⟩ := isFinite_iff.mp hb
  obtain ⟨number, sum⟩ := add_value na hc (Or.inl bot) (Or.inl top)
  obtain ⟨number', sum'⟩ := add_value nb hd (Or.inl bot') (Or.inl top')
  rw [le_iff, sum, sum']
  exact ⟨number, number', nearest_mono (add_le_add (le_iff.mp left).2.2 rights)⟩

protected theorem le_add_of_nonneg (hx : 0.0 ≤ x) (hy : 0.0 ≤ y) : x ≤ x + y := by
  obtain ⟨nx, px⟩ := nonneg_iff.mp hx
  obtain ⟨ny, py⟩ := nonneg_iff.mp hy
  have low {z : EReal} (nonneg : 0 ≤ z) : z ≠ ⊥ := (EReal.bot_lt_zero.trans_le nonneg).ne'
  obtain ⟨number, sum⟩ := add_value nx ny (Or.inl (low px)) (Or.inr (low py))
  rw [le_iff, sum]
  refine ⟨nx, number, ?_⟩
  calc value x = nearest (value x) := (nearest_value x).symm
    _ ≤ nearest (value x + value y) := nearest_mono (le_add_of_nonneg_right py)

protected theorem le_add_of_finite (hx : IsNumber x) (hy : 0.0 ≤ y) (finite : y.isFinite = true) :
    x ≤ x + y := by
  obtain ⟨ny, py⟩ := nonneg_iff.mp hy
  obtain ⟨-, top, bot⟩ := isFinite_iff.mp finite
  obtain ⟨number, sum⟩ := add_value hx ny (Or.inr top) (Or.inr bot)
  rw [le_iff, sum]
  refine ⟨hx, number, ?_⟩
  calc value x = nearest (value x) := (nearest_value x).symm
    _ ≤ nearest (value x + value y) := nearest_mono (le_add_of_nonneg_right py)

protected theorem le_add_left (hx : 0.0 ≤ x) (hy : 0.0 ≤ y) : y ≤ x + y := by
  obtain ⟨nx, px⟩ := nonneg_iff.mp hx
  obtain ⟨ny, py⟩ := nonneg_iff.mp hy
  have low {z : EReal} (nonneg : 0 ≤ z) : z ≠ ⊥ := (EReal.bot_lt_zero.trans_le nonneg).ne'
  obtain ⟨number, sum⟩ := add_value nx ny (Or.inl (low px)) (Or.inr (low py))
  rw [le_iff, sum]
  refine ⟨ny, number, ?_⟩
  calc value y = nearest (value y) := (nearest_value y).symm
    _ ≤ nearest (value x + value y) := nearest_mono (le_add_of_nonneg_left px)

protected theorem sub_nonneg (below : a ≤ b) (ha : a.isFinite = true) (hb : b.isFinite = true) :
    0.0 ≤ b - a := by
  obtain ⟨na, top, bot⟩ := isFinite_iff.mp ha
  obtain ⟨nb, top', bot'⟩ := isFinite_iff.mp hb
  obtain ⟨number, difference⟩ := sub_value nb na (Or.inl bot') (Or.inl top')
  rw [nonneg_iff, difference]
  refine ⟨number, ?_⟩
  have values := (EReal.sub_nonneg (Or.inl top') (Or.inl bot')).mpr (le_iff.mp below).2.2
  simpa using nearest_mono values

protected theorem sub_le_self (finite : x.isFinite = true) (hy : 0.0 ≤ y) : x - y ≤ x := by
  obtain ⟨nx, top, bot⟩ := isFinite_iff.mp finite
  obtain ⟨ny, py⟩ := nonneg_iff.mp hy
  obtain ⟨number, difference⟩ := sub_value nx ny (Or.inl bot) (Or.inl top)
  rw [le_iff, difference]
  refine ⟨number, nx, ?_⟩
  calc nearest (value x - value y) ≤ nearest (value x - 0) :=
        nearest_mono (EReal.sub_le_sub le_rfl py)
    _ = value x := by rw [sub_zero, nearest_value]

theorem unpack_infinity {s : Sign} (infinite : value x = number (.infinity s)) :
    x.toModel.unpack = .infinity s := by
  unfold value at infinite
  cases parts : x.toModel.unpack with
  | notANumber =>
    rw [parts] at infinite
    cases s <;> simp [number, signed] at infinite
  | infinity t =>
    rw [parts] at infinite
    cases s <;> cases t <;> first | rfl | simp at infinite
  | zero t =>
    rw [parts] at infinite
    cases s <;> simp at infinite
  | finite t m e hm =>
    rw [parts, number_finite] at infinite
    cases s <;> simp [-EReal.coe_mul] at infinite

theorem isNumber_sub_operands (number : IsNumber (x - y)) :
    (value x ≠ ⊥ ∨ value y ≠ ⊥) ∧ (value x ≠ ⊤ ∨ value y ≠ ⊤) := by
  have equal (s : Sign) (left : value x = Binary64.number (.infinity s)) :
      value y ≠ Binary64.number (.infinity s) := by
    intro right
    rw [isNumber_iff] at number
    change packed (UnpackedFloat.sub Format.binary64 x.toModel.unpack y.toModel.unpack) ≠ _
      at number
    rw [unpack_infinity left, unpack_infinity right] at number
    cases s <;> exact number rfl
  exact ⟨or_iff_not_imp_left.mpr fun low => equal .negative (not_not.mp low),
    or_iff_not_imp_left.mpr fun high => equal .positive (not_not.mp high)⟩

protected theorem add_le_add_right (below : a ≤ b) (finite : c.isFinite = true) :
    a + c ≤ b + c := by
  obtain ⟨ha, hb, values⟩ := le_iff.mp below
  obtain ⟨hc, top, bot⟩ := isFinite_iff.mp finite
  obtain ⟨number, sum⟩ := add_value ha hc (Or.inr top) (Or.inr bot)
  obtain ⟨number', sum'⟩ := add_value hb hc (Or.inr top) (Or.inr bot)
  rw [le_iff, sum, sum']
  exact ⟨number, number', nearest_mono (add_le_add values le_rfl)⟩

protected theorem sub_le_sub_right (below : a ≤ b) (finite : c.isFinite = true) :
    a - c ≤ b - c := by
  obtain ⟨ha, hb, values⟩ := le_iff.mp below
  obtain ⟨hc, top, bot⟩ := isFinite_iff.mp finite
  obtain ⟨number, difference⟩ := sub_value ha hc (Or.inr bot) (Or.inr top)
  obtain ⟨number', difference'⟩ := sub_value hb hc (Or.inr bot) (Or.inr top)
  rw [le_iff, difference, difference']
  exact ⟨number, number', nearest_mono (EReal.sub_le_sub values le_rfl)⟩

/-- A difference above some number stays above it when more is taken from or less is taken away,
even if that meets infinities. -/
theorem lt_sub_mono (above : c < x - y) (more : x ≤ a) (less : b ≤ y) : c < a - b := by
  obtain ⟨hc, number, values⟩ := lt_iff.mp above
  obtain ⟨hx, ha, low⟩ := le_iff.mp more
  obtain ⟨hb, hy, high⟩ := le_iff.mp less
  obtain ⟨bottoms, tops⟩ := isNumber_sub_operands number
  have difference := (sub_value hx hy bottoms tops).2
  rw [difference] at values
  have some : nearest (value x - value y) ≠ ⊥ := (bot_le.trans_lt values).ne'
  have left : value x ≠ ⊥ := by
    intro bot
    rw [bot, EReal.bot_sub, nearest_bot] at some
    exact some rfl
  have right : value y ≠ ⊤ := by
    intro top
    rw [top, EReal.sub_top, nearest_bot] at some
    exact some rfl
  have left' : value a ≠ ⊥ := ((bot_lt_iff_ne_bot.mpr left).trans_le low).ne'
  have right' : value b ≠ ⊤ := (high.trans_lt (lt_top_iff_ne_top.mpr right)).ne
  obtain ⟨number', difference'⟩ := sub_value ha hb (Or.inl left') (Or.inr right')
  rw [lt_iff, difference']
  exact ⟨hc, number', values.trans_le (nearest_mono (EReal.sub_le_sub low high))⟩

protected theorem mul_nonneg (hx : 0.0 ≤ x) (hy : 0.0 < y) (finite : y.isFinite = true) :
    0.0 ≤ x * y := by
  obtain ⟨nx, px⟩ := nonneg_iff.mp hx
  obtain ⟨ny, py⟩ := pos_iff.mp hy
  obtain ⟨number, product⟩ := mul_value nx ny (Or.inr (isFinite_iff.mp finite).2) (Or.inl py.ne')
  rw [nonneg_iff, product]
  exact ⟨number, by simpa using nearest_mono (mul_nonneg px py.le)⟩

theorem pos_mul_nonneg (positive : 0.0 < x) (finite : x.isFinite = true) (hy : 0.0 ≤ y) :
    0.0 ≤ x * y := by
  obtain ⟨nx, px⟩ := pos_iff.mp positive
  obtain ⟨ny, py⟩ := nonneg_iff.mp hy
  obtain ⟨number, product⟩ := mul_value nx ny (Or.inl px.ne') (Or.inr (isFinite_iff.mp finite).2)
  rw [nonneg_iff, product]
  exact ⟨number, by simpa using nearest_mono (mul_nonneg px.le py)⟩

protected theorem mul_le_mul (below : a ≤ b) (positive : 0.0 < a) (ha : a.isFinite = true)
    (hb : b.isFinite = true) (hx : 0.0 ≤ x) : a * x ≤ b * x := by
  obtain ⟨na, nb, values⟩ := le_iff.mp below
  obtain ⟨nx, px⟩ := nonneg_iff.mp hx
  have pa := (pos_iff.mp positive).2
  obtain ⟨number, product⟩ := mul_value na nx (Or.inl pa.ne') (Or.inr (isFinite_iff.mp ha).2)
  obtain ⟨number', product'⟩ :=
    mul_value nb nx (Or.inl (pa.trans_le values).ne') (Or.inr (isFinite_iff.mp hb).2)
  rw [le_iff, product, product']
  exact ⟨number, number', nearest_mono (mul_le_mul_of_nonneg_right values px)⟩

protected theorem mul_le_mul_both (ha : 0.0 ≤ a) (left : a ≤ b) (hb : b.isFinite = true)
    (hx : 0.0 ≤ x) (right : x ≤ y) (hy : y.isFinite = true) : a * x ≤ b * y := by
  have finite : a.isFinite = true := isFinite_of_between ha left (by decide) hb
  have finite' : x.isFinite = true := isFinite_of_between hx right (by decide) hy
  obtain ⟨na, pa⟩ := nonneg_iff.mp ha
  obtain ⟨nx, px⟩ := nonneg_iff.mp hx
  obtain ⟨-, nb, lefts⟩ := le_iff.mp left
  obtain ⟨-, ny, rights⟩ := le_iff.mp right
  obtain ⟨number, product⟩ :=
    mul_value na nx (Or.inr (isFinite_iff.mp finite').2) (Or.inr (isFinite_iff.mp finite).2)
  obtain ⟨number', product'⟩ :=
    mul_value nb ny (Or.inr (isFinite_iff.mp hy).2) (Or.inr (isFinite_iff.mp hb).2)
  rw [le_iff, product, product']
  exact ⟨number, number', nearest_mono (mul_le_mul lefts rights px (pa.trans lefts))⟩

protected theorem div_le_div (below : a ≤ b) (positive : 0.0 < x) (finite : x.isFinite = true) :
    a / x ≤ b / x := by
  obtain ⟨na, nb, values⟩ := le_iff.mp below
  obtain ⟨nx, px⟩ := pos_iff.mp positive
  obtain ⟨number, quotient⟩ := div_value na nx px.ne' (Or.inr (isFinite_iff.mp finite).2)
  obtain ⟨number', quotient'⟩ := div_value nb nx px.ne' (Or.inr (isFinite_iff.mp finite).2)
  rw [le_iff, quotient, quotient']
  exact ⟨number, number', nearest_mono (EReal.div_le_div_right_of_nonneg px.le values)⟩

protected theorem zero_div (positive : 0.0 < x) (finite : x.isFinite = true) :
    value (0.0 / x) = 0 := by
  obtain ⟨nx, px⟩ := pos_iff.mp positive
  have quotient := (div_value isNumber_zero nx px.ne' (Or.inr (isFinite_iff.mp finite).2)).2
  rw [quotient, value_zero, EReal.zero_div, nearest_zero]

protected theorem div_nonneg (hx : 0.0 ≤ x) (positive : 0.0 < y) (finite : y.isFinite = true) :
    0.0 ≤ x / y := by
  have quotients := Binary64.div_le_div hx positive finite
  rw [le_iff, Binary64.zero_div positive finite] at quotients
  exact nonneg_iff.mpr quotients.2

protected theorem div_self (positive : 0.0 < x) (finite : x.isFinite = true) :
    value (x / x) = 1 := by
  obtain ⟨nx, px⟩ := pos_iff.mp positive
  obtain ⟨-, top, bot⟩ := isFinite_iff.mp finite
  rw [(div_value nx nx px.ne' (Or.inl ⟨top, bot⟩)).2, EReal.div_self bot top px.ne', ← value_one,
    nearest_value]

protected theorem div_le_one (below : x ≤ y) (positive : 0.0 < y) (finite : y.isFinite = true) :
    x / y ≤ 1.0 := by
  have quotients := Binary64.div_le_div below positive finite
  rw [le_iff, Binary64.div_self positive finite, ← value_one] at quotients
  exact le_iff.mpr ⟨quotients.1, isNumber_one, quotients.2.2⟩

protected theorem div_le_div_left (ha : 0.0 ≤ a) (finite : a.isFinite = true) (positive : 0.0 < x)
    (below : x ≤ y) : a / y ≤ a / x := by
  obtain ⟨na, pa⟩ := nonneg_iff.mp ha
  obtain ⟨nx, px⟩ := pos_iff.mp positive
  obtain ⟨-, ny, values⟩ := le_iff.mp below
  have py : 0 < value y := px.trans_le values
  obtain ⟨number, quotient⟩ := div_value na nx px.ne' (Or.inl (isFinite_iff.mp finite).2)
  obtain ⟨number', quotient'⟩ := div_value na ny py.ne' (Or.inl (isFinite_iff.mp finite).2)
  have inverses : (value y)⁻¹ ≤ (value x)⁻¹ := (EReal.inv_strictAntiOn.le_iff_ge py px).mpr values
  rw [le_iff, quotient, quotient', div_eq_mul_inv, div_eq_mul_inv]
  exact ⟨number', number, nearest_mono (mul_le_mul_of_nonneg_left inverses pa)⟩

def greatest : Float := Float.ofBits 0x7FEFFFFFFFFFFFFF

theorem unpack_greatest :
    greatest.toModel.unpack = .finite .positive (2 ^ 53 - 1) 971 (by decide) := rfl

theorem le_greatest (finite : x.isFinite = true) : x ≤ greatest := by
  have limit : value greatest = (((2 ^ 53 - 1 : Nat) * 2 ^ (971 : Int) : ℝ) : EReal) := by
    unfold value
    rw [unpack_greatest, number_parts]
    rfl
  have positive : 0 ≤ value greatest := by
    rw [limit]
    exact_mod_cast (by positivity : (0 : ℝ) ≤ (2 ^ 53 - 1 : Nat) * 2 ^ (971 : Int))
  refine le_iff.mpr ⟨isNumber_of_finite finite, by decide, ?_⟩
  change x.toModel.unpack.isFinite = true at finite
  obtain ⟨canonical, small⟩ := unpack_canonical x.toModel
  unfold value at limit ⊢
  cases parts : x.toModel.unpack with
  | notANumber => simp [parts, UnpackedFloat.isFinite] at finite
  | infinity s => simp [parts, UnpackedFloat.isFinite] at finite
  | zero s => exact positive
  | finite s m e hm =>
    rw [parts] at canonical small
    have size : (0 : EReal) < ((m * 2 ^ e : ℝ) : EReal) := finite_pos hm e
    cases s with
    | negative =>
      refine (EReal.neg_le_neg_iff.mpr size.le).trans ?_
      rw [neg_zero]
      exact positive
    | positive =>
      rw [limit, number_parts]
      change ((m * 2 ^ e : ℝ) : EReal) ≤ _
      rw [EReal.coe_le_coe_iff]
      change OnGrid m e at canonical
      change e ≤ 971 at small
      have full : OnGrid (2 ^ 53 - 1) 971 := by
        unfold OnGrid
        omega
      by_cases same : e = 971 ∧ m = 2 ^ 53 - 1
      · rw [same.1, same.2]
      · have digits := canonical.1
        exact (grid_lt canonical full (by omega)).le

theorem larger_eq (hx : IsNumber x) (hy : IsNumber y) :
    larger x y = if y < x then x else y := by
  unfold larger
  rw [if_neg (Bool.eq_false_iff.mp hx), if_neg (Bool.eq_false_iff.mp hy)]

theorem larger_cases (hx : IsNumber x) (hy : IsNumber y) : larger x y = x ∨ larger x y = y := by
  rw [larger_eq hx hy]
  split
  · exact Or.inl rfl
  · exact Or.inr rfl

theorem le_larger_right (hx : IsNumber x) (hy : IsNumber y) : y ≤ larger x y := by
  rw [larger_eq hx hy]
  split
  · rename_i above
    exact Binary64.le_of_lt above
  · exact Binary64.le_refl hy

theorem le_larger_left (hx : IsNumber x) (hy : IsNumber y) : x ≤ larger x y := by
  rw [larger_eq hx hy]
  split_ifs with above
  · exact Binary64.le_refl hx
  · exact (Binary64.not_lt hy hx).mp above

theorem larger_nan (hx : IsNumber x) (none : ¬IsNumber y) : larger x y = x := by
  unfold larger
  rw [if_neg (Bool.eq_false_iff.mp hx), if_pos (by simpa [IsNumber] using none)]

theorem le_larger (hx : IsNumber x) (y : Float) : x ≤ larger x y := by
  by_cases hy : IsNumber y
  · exact le_larger_left hx hy
  · rw [larger_nan hx hy]
    exact Binary64.le_refl hx

theorem larger_negInfinity (hx : IsNumber x) : larger negInfinity x = x := by
  have least : ¬x < negInfinity := by
    rw [lt_iff]
    rintro ⟨-, -, below⟩
    exact not_lt_bot below
  rw [larger_eq isNumber_negInfinity hx, if_neg least]

theorem larger_le (left : x ≤ b) (right : y ≤ b) : larger x y ≤ b := by
  rcases larger_cases (isNumber_of_le left).1 (isNumber_of_le right).1 with same | same
  · rwa [same]
  · rwa [same]

theorem isNumber_larger (hx : IsNumber x) (y : Float) : IsNumber (larger x y) := by
  unfold larger
  rw [if_neg (Bool.eq_false_iff.mp hx)]
  split_ifs with nan above
  · exact hx
  · exact hx
  · simpa [IsNumber] using nan

theorem larger_larger (hc : IsNumber c) (later : x ≤ y) :
    larger (larger c x) y = larger c y := by
  obtain ⟨hx, hy⟩ := isNumber_of_le later
  rw [larger_eq hc hx, larger_eq hc hy]
  by_cases above : x < c
  · rw [if_pos above, larger_eq hc hy]
  · rw [if_neg above, larger_eq hx hy, if_neg ((Binary64.not_lt hy hx).mpr later)]
    have behind := Binary64.le_trans ((Binary64.not_lt hx hc).mp above) later
    rw [if_neg ((Binary64.not_lt hy hc).mpr behind)]

theorem smaller_eq (hx : IsNumber x) (hy : IsNumber y) :
    smaller x y = if x < y then x else y := by
  unfold smaller
  rw [if_neg (Bool.eq_false_iff.mp hx), if_neg (Bool.eq_false_iff.mp hy)]

theorem smaller_cases (hx : IsNumber x) (hy : IsNumber y) : smaller x y = x ∨ smaller x y = y := by
  rw [smaller_eq hx hy]
  split
  · exact Or.inl rfl
  · exact Or.inr rfl

theorem smaller_le_right (hx : IsNumber x) (hy : IsNumber y) : smaller x y ≤ y := by
  rw [smaller_eq hx hy]
  split_ifs with below
  · exact Binary64.le_of_lt below
  · exact Binary64.le_refl hy

theorem smaller_le_left (hx : IsNumber x) (hy : IsNumber y) : smaller x y ≤ x := by
  rw [smaller_eq hx hy]
  split_ifs with below
  · exact Binary64.le_refl hx
  · exact (Binary64.not_lt hx hy).mp below

theorem smaller_infinity (hx : IsNumber x) : smaller infinity x = x := by
  have greatest : ¬infinity < x := by
    rw [lt_iff]
    rintro ⟨-, -, above⟩
    exact not_top_lt above
  rw [smaller_eq (by decide) hx, if_neg greatest]

theorem choose_lt (hx : IsNumber x) (hy : IsNumber y) :
    IsNumber (if x < y then y else x) ∧
      value (if x < y then y else x) = max (value y) (value x) := by
  split
  · rename_i below
    exact ⟨hy, (max_eq_left (lt_iff.mp below).2.2.le).symm⟩
  · rename_i above
    exact ⟨hx, (max_eq_right (le_iff.mp ((Binary64.not_lt hx hy).mp above)).2.2).symm⟩

theorem choose_gt (hx : IsNumber x) (hy : IsNumber y) :
    IsNumber (if y < x then y else x) ∧
      value (if y < x then y else x) = min (value y) (value x) := by
  split
  · rename_i below
    exact ⟨hy, (min_eq_left (lt_iff.mp below).2.2.le).symm⟩
  · rename_i above
    exact ⟨hx, (min_eq_right (le_iff.mp ((Binary64.not_lt hy hx).mp above)).2.2).symm⟩

theorem within_value (ha : IsNumber a) (hb : IsNumber b) (hx : IsNumber x) :
    IsNumber (within a b x) ∧ value (within a b x) = min (value b) (max (value a) (value x)) := by
  obtain ⟨number, raised⟩ := choose_lt hx ha
  rw [← raised]
  exact choose_gt number hb

theorem within_between (bounds : a ≤ b) (hx : IsNumber x) :
    a ≤ within a b x ∧ within a b x ≤ b := by
  obtain ⟨ha, hb, values⟩ := le_iff.mp bounds
  obtain ⟨number, same⟩ := within_value ha hb hx
  rw [le_iff, le_iff, same]
  exact ⟨⟨ha, number, le_min values (le_max_left _ _)⟩, number, hb, min_le_left _ _⟩

theorem within_mono (ha : IsNumber a) (hb : IsNumber b) (below : x ≤ y) :
    within a b x ≤ within a b y := by
  obtain ⟨hx, hy, values⟩ := le_iff.mp below
  obtain ⟨left, same⟩ := within_value ha hb hx
  obtain ⟨right, same'⟩ := within_value ha hb hy
  rw [le_iff, same, same']
  exact ⟨left, right, min_le_min le_rfl (max_le_max le_rfl values)⟩

def digitsOf (b : UInt64) : Nat :=
  if exponentPart b = 0 then mantissaPart b else 2 ^ 52 + mantissaPart b

def gridOf (b : UInt64) : Int := max (exponentPart b) 1 - 1075

noncomputable def magnitude (b : UInt64) : EReal :=
  if exponentPart b = 2047 then ⊤ else scaled (digitsOf b) (gridOf b)

theorem magnitude_nonneg (b : UInt64) : 0 ≤ magnitude b := by
  unfold magnitude scaled
  split
  · exact le_top
  · exact_mod_cast (by positivity : (0 : ℝ) ≤ digitsOf b * 2 ^ gridOf b)

theorem value_word {x : Float} (hx : IsNumber x) :
    value x = signed (signPart x.toBits) (magnitude x.toBits) := by
  rw [isNumber_iff] at hx
  have word : x.toModel.unpack = UnpackedFloat.unpack Format.binary64 x.toBits.toBitVec := rfl
  unfold value magnitude scaled digitsOf gridOf
  rw [word, unpack_word] at hx ⊢
  split_ifs at hx ⊢ with infinite blank least zero
  · rfl
  · exact absurd rfl hx
  · cases signPart x.toBits <;> simp [zero, signed]
  · rw [number_parts, least]
    norm_num
  · rw [number_parts]
    congr 4
    omega

theorem digitsOf_onGrid (b : UInt64) : OnGrid (digitsOf b) (gridOf b) := by
  have mantissa := mantissaPart_lt b
  unfold OnGrid digitsOf gridOf
  split_ifs with least <;> omega

theorem magnitude_mono {b c : UInt64} (order : b.toNat % 2 ^ 63 ≤ c.toNat % 2 ^ 63) :
    magnitude b ≤ magnitude c := by
  have parts (w : UInt64) : w.toNat % 2 ^ 63 = exponentPart w * 2 ^ 52 + mantissaPart w := by
    unfold exponentPart mantissaPart
    omega
  have mantissa := mantissaPart_lt b
  have mantissa' := mantissaPart_lt c
  have exponent := exponentPart_lt c
  rw [parts, parts] at order
  unfold magnitude scaled
  split_ifs with infinite infinite' infinite'
  · exact le_rfl
  · omega
  · exact le_top
  · rw [EReal.coe_le_coe_iff]
    by_cases same : digitsOf b = digitsOf c ∧ gridOf b = gridOf c
    · rw [same.1, same.2]
    · refine (grid_lt (digitsOf_onGrid b) (digitsOf_onGrid c) ?_).le
      unfold digitsOf gridOf at same ⊢
      split_ifs at same ⊢ <;> omega

theorem totalKey_toNat (x : Float) :
    (totalKey x).toNat =
      if x.toBits.toNat < 2 ^ 63 then x.toBits.toNat + 2 ^ 63 else 2 ^ 64 - 1 - x.toBits.toNat := by
  have word := x.toBits.toNat_lt
  have sign : (0x8000000000000000 : UInt64).toNat = 2 ^ 63 := rfl
  unfold totalKey
  simp only [UInt64.lt_iff_toNat_lt, sign]
  split
  · rename_i clear
    have bits := Nat.two_pow_add_eq_or_of_lt clear 1
    rw [mul_one] at bits
    rw [UInt64.toNat_or, sign, Nat.or_comm, ← bits, Nat.add_comm]
  · rw [UInt64.toNat_not]
    rfl

theorem le_of_totalKey_le (hx : IsNumber x) (hy : IsNumber y) (order : totalKey x ≤ totalKey y) :
    x ≤ y := by
  have word := x.toBits.toNat_lt
  have word' := y.toBits.toNat_lt
  rw [UInt64.le_iff_toNat_le, totalKey_toNat, totalKey_toNat] at order
  rw [le_iff, value_word hx, value_word hy]
  refine ⟨hx, hy, ?_⟩
  unfold signPart
  split_ifs at order ⊢ with positive positive' positive'
  · exact magnitude_mono (by omega)
  · omega
  · calc -magnitude x.toBits ≤ 0 := by simpa using magnitude_nonneg x.toBits
      _ ≤ magnitude y.toBits := magnitude_nonneg y.toBits
  · exact EReal.neg_le_neg_iff.mpr (magnitude_mono (by omega))

end NoteChart.Binary64
