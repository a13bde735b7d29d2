import NoteChart.Proofs.Binary64.Order

/-!
How far doubles are apart. The absolute value of a double stands for that of its number, and a
difference taken the other way round stands for the opposite number. A finite difference is one of
finite doubles.
-/
namespace NoteChart.Binary64

open Float.Model Float.Model.UnpackedFloat

variable {c d x y z : Float}

theorem unpack_abs (x : Float) : x.abs.toModel.unpack = x.toModel.unpack.abs := by
  have bounds : Canonical x.toModel.unpack.abs ∧ IsSmall x.toModel.unpack.abs := by
    have given := unpack_canonical x.toModel
    cases parts : x.toModel.unpack <;> rw [parts] at given <;> exact given
  exact packed_small bounds.1 bounds.2

theorem number_abs (u : UnpackedFloat) : number u.abs = max (number u) (-number u) := by
  cases u with
  | notANumber => simp [UnpackedFloat.abs, number]
  | infinity s => cases s <;> simp [UnpackedFloat.abs]
  | zero s => simp [UnpackedFloat.abs]
  | finite s m e hm =>
    have above : (0 : EReal) ≤ scaled m e := by
      unfold scaled
      exact_mod_cast (by positivity : (0 : ℝ) ≤ m * 2 ^ e)
    have order : -scaled m e ≤ scaled m e :=
      (EReal.neg_le_neg_iff.mpr above).trans (by simpa using above)
    cases s
    · change scaled m e = max (-scaled m e) (- -scaled m e)
      rw [neg_neg, max_eq_right order]
    · change scaled m e = max (scaled m e) (-scaled m e)
      rw [max_eq_left order]

theorem abs_value (x : Float) : value x.abs = max (value x) (-value x) := by
  unfold value
  rw [unpack_abs, number_abs]

theorem isNumber_abs : IsNumber x.abs ↔ IsNumber x := by
  rw [isNumber_iff, isNumber_iff, unpack_abs]
  cases x.toModel.unpack <;> simp [UnpackedFloat.abs]

theorem isNumber_neg_iff : IsNumber (-x) ↔ IsNumber x := by
  rw [isNumber_iff, isNumber_iff, unpack_neg]
  cases x.toModel.unpack <;> simp [UnpackedFloat.neg]

theorem isFinite_of_abs (small : x.abs ≤ c) (finite : c.isFinite = true) : x.isFinite = true := by
  obtain ⟨number, -, below⟩ := le_iff.mp small
  have high := lt_top_iff_ne_top.mpr (isFinite_iff.mp finite).2.1
  rw [abs_value, max_le_iff] at below
  refine isFinite_iff.mpr ⟨isNumber_abs.mp number, (below.1.trans_lt high).ne, ?_⟩
  intro bot
  rw [bot, EReal.neg_bot] at below
  exact absurd (below.2.trans_lt high) (lt_irrefl _)

theorem lt_abs_of_lt_neg (beyond : c < -d) : c < d.abs := by
  obtain ⟨hc, hd, above⟩ := lt_iff.mp beyond
  rw [neg_value] at above
  rw [lt_iff, abs_value]
  exact ⟨hc, isNumber_abs.mpr (isNumber_neg_iff.mp hd), above.trans_le (le_max_right _ _)⟩

theorem isNumber_of_sub (number : IsNumber (x - y)) : IsNumber x ∧ IsNumber y := by
  rw [isNumber_iff] at number
  change packed (UnpackedFloat.sub Format.binary64 x.toModel.unpack y.toModel.unpack) ≠ _
    at number
  refine ⟨(isNumber_iff x).mpr ?_, (isNumber_iff y).mpr ?_⟩
  · intro nan
    rw [nan] at number
    exact number packed_notANumber
  · intro nan
    have none : UnpackedFloat.sub Format.binary64 x.toModel.unpack .notANumber = .notANumber := by
      cases x.toModel.unpack <;> rfl
    rw [nan, none] at number
    exact number packed_notANumber

theorem neg_sub_value (number : IsNumber (x - y)) :
    IsNumber (y - x) ∧ value (y - x) = value (-(x - y)) := by
  obtain ⟨hx, hy⟩ := isNumber_of_sub number
  obtain ⟨bottoms, tops⟩ := isNumber_sub_operands number
  obtain ⟨number', difference'⟩ := sub_value hy hx bottoms.symm tops.symm
  refine ⟨number', ?_⟩
  rw [difference', neg_value, (sub_value hx hy bottoms tops).2, ← nearest_neg,
    EReal.neg_sub bottoms tops, add_comm]
  rfl

theorem isNumber_sub_comm : IsNumber (x - y) ↔ IsNumber (y - x) :=
  ⟨fun number => (neg_sub_value number).1, fun number => (neg_sub_value number).1⟩

theorem lt_neg_sub : c < -(x - y) ↔ c < y - x := by
  rw [lt_iff, lt_iff, isNumber_neg_iff]
  constructor
  · rintro ⟨hc, number, above⟩
    exact ⟨hc, isNumber_sub_comm.mp number, (neg_sub_value number).2 ▸ above⟩
  · rintro ⟨hc, number, above⟩
    have number' := isNumber_sub_comm.mpr number
    exact ⟨hc, number', (neg_sub_value number').2 ▸ above⟩

theorem neg_sub_le : -(x - y) ≤ c ↔ y - x ≤ c := by
  rw [le_iff, le_iff, isNumber_neg_iff]
  constructor
  · rintro ⟨number, hc, below⟩
    exact ⟨isNumber_sub_comm.mp number, hc, (neg_sub_value number).2 ▸ below⟩
  · rintro ⟨number, hc, below⟩
    have number' := isNumber_sub_comm.mpr number
    exact ⟨number', hc, (neg_sub_value number').2 ▸ below⟩

theorem isFinite_left_of_sub (finite : (x - y).isFinite = true) : x.isFinite = true := by
  obtain ⟨number, top, bot⟩ := isFinite_iff.mp finite
  obtain ⟨hx, hy⟩ := isNumber_of_sub number
  obtain ⟨bottoms, tops⟩ := isNumber_sub_operands number
  rw [(sub_value hx hy bottoms tops).2] at top bot
  refine isFinite_iff.mpr ⟨hx, ?_, ?_⟩
  · intro high
    have low := tops.resolve_left (not_not.mpr high)
    rw [high, EReal.top_sub low, nearest_top] at top
    exact top rfl
  · intro low
    rw [low, EReal.bot_sub, nearest_bot] at bot
    exact bot rfl

theorem isNumber_sub_of_near (near : (x - y).abs ≤ c) (finite : c.isFinite = true)
    (hz : IsNumber z) : IsNumber (x - z) :=
  isNumber_sub_comm.mp (isNumber_sub hz (isFinite_left_of_sub (isFinite_of_abs near finite)))

end NoteChart.Binary64
