import NoteChart.Grade
import Mathlib.Algebra.Order.Field.Rat
import Mathlib.Data.List.Basic
import Mathlib.Order.Interval.Set.Basic
import Mathlib.Tactic.NormNum

/-!
Grades by ninths. The grade found is the best one whose ninths of the greatest score are reached, as
fractions; so it follows the ratio of the two scores alone. All products fit a word of 64 bits, and
going up the ladder in such words leads to the same grade.
-/
namespace NoteChart
namespace Grade

theorem rank_injective : Function.Injective rank := by
  intro grade other same
  cases grade <;> cases other <;> first | rfl | cases same

theorem rank_le (grade : Grade) : grade.rank ≤ 7 := by
  cases grade <;> decide

theorem mem_ladder_iff {ninths : Nat} {grade : Grade} :
    (ninths, grade) ∈ ladder ↔ 0 < grade.rank ∧ ninths = grade.rank + 1 := by
  cases grade <;> simp [ladder, rank]

theorem exists_rung {i : Nat} (higher : 0 < i) (listed : i ≤ 7) :
    ∃ grade, (i + 1, grade) ∈ ladder := by
  have all : ∀ i ≤ 7, 0 < i → i + 1 ∈ ladder.map Prod.fst := by decide
  obtain ⟨⟨ninths, grade⟩, inside, rfl⟩ := List.mem_map.mp (all i listed higher)
  exact ⟨grade, inside⟩

theorem ladder_descending : ladder.Pairwise fun upper lower => lower.1 < upper.1 := by
  decide

theorem le_of_found {reaches : Nat × Grade → Bool} {rung other : Nat × Grade}
    (found : ladder.find? reaches = some rung) (inside : other ∈ ladder)
    (reached : reaches other = true) : other.1 ≤ rung.1 := by
  obtain ⟨-, upper, lower, split, unreached⟩ := List.find?_eq_some_iff_append.mp found
  have descending := ladder_descending
  rw [split] at inside descending
  rcases List.mem_append.mp inside with above | below
  · have not : (!reaches other) = true := unreached other above
    rw [reached] at not
    cases not
  · rcases List.mem_cons.mp below with rfl | below
    · exact Nat.le_refl _
    · have rest := (List.pairwise_append.mp descending).2.1
      exact Nat.le_of_lt (List.rel_of_pairwise_cons rest below)

theorem foldl_reverse_overwrite (reaches : Nat × Grade → Bool) (rungs : List (Nat × Grade))
    (lowest : Grade) :
    rungs.reverse.foldl (fun grade rung => if reaches rung then rung.2 else grade) lowest =
      ((rungs.find? reaches).map Prod.snd).getD lowest := by
  rw [List.foldl_reverse]
  induction rungs with
  | nil => rfl
  | cons rung rest ih =>
    rw [List.foldr_cons, ih, List.find?_cons]
    cases reaches rung <;> rfl

section Scores

variable {score maxScore : UInt32}

theorem ofScore_eq (nonzero : 0 < maxScore) : ofScore score maxScore =
    ((ladder.find? fun rung => rung.1 * maxScore.toNat ≤ score.toNat * 9).map
      Prod.snd).getD .f := by
  have some : maxScore ≠ 0 := by
    rintro rfl
    exact absurd nonzero (by decide)
  rw [ofScore, if_neg some]
  cases ladder.find? fun rung => rung.1 * maxScore.toNat ≤ score.toNat * 9 <;> rfl

theorem le_rank_ofScore_iff (nonzero : 0 < maxScore) {i : Nat} (higher : 0 < i) :
    i ≤ (ofScore score maxScore).rank ↔
      i ≤ 7 ∧ (i + 1) * maxScore.toNat ≤ score.toNat * 9 := by
  rw [ofScore_eq nonzero]
  cases found : ladder.find? fun rung => rung.1 * maxScore.toNat ≤ score.toNat * 9 with
  | none =>
    constructor
    · intro lowest
      exact absurd higher (Nat.not_lt_of_le lowest)
    · rintro ⟨listed, reached⟩
      obtain ⟨grade, inside⟩ := exists_rung higher listed
      exact absurd (decide_eq_true reached) (List.find?_eq_none.mp found _ inside)
  | some rung =>
    obtain ⟨ninths, grade⟩ := rung
    obtain ⟨-, rfl⟩ := mem_ladder_iff.mp (List.mem_of_find?_eq_some found)
    constructor
    · intro lower
      have hit := List.find?_some found
      refine ⟨Nat.le_trans lower grade.rank_le, Nat.le_trans ?_ (of_decide_eq_true hit)⟩
      exact Nat.mul_le_mul_right _ (Nat.succ_le_succ lower)
    · rintro ⟨listed, reached⟩
      obtain ⟨other, inside⟩ := exists_rung higher listed
      exact Nat.le_of_succ_le_succ (le_of_found found inside (decide_eq_true reached))

/-- The ranks whose ninths a score reaches as a fraction, and the lowest. -/
def reached (score maxScore : UInt32) : Set Nat :=
  {i | i = 0 ∨ 1 ≤ i ∧ i ≤ 7 ∧ ((i : ℚ) + 1) / 9 ≤ (score.toNat : ℚ) / maxScore.toNat}

theorem toNat_pos (nonzero : 0 < maxScore) : (0 : ℚ) < maxScore.toNat :=
  Nat.cast_pos.mpr (UInt32.lt_iff_toNat_lt.mp nonzero)

theorem reached_eq (nonzero : 0 < maxScore) :
    reached score maxScore = Set.Iic (ofScore score maxScore).rank := by
  ext i
  rcases Nat.eq_zero_or_pos i with rfl | higher
  · exact iff_of_true (Or.inl rfl) (Nat.zero_le _)
  · have fraction : ((i : ℚ) + 1) / 9 ≤ (score.toNat : ℚ) / maxScore.toNat ↔
        (i + 1) * maxScore.toNat ≤ score.toNat * 9 := by
      rw [div_le_div_iff₀ (by norm_num) (toNat_pos nonzero)]
      exact_mod_cast Iff.rfl
    rw [Set.mem_Iic, le_rank_ofScore_iff nonzero higher, ← fraction]
    exact (or_iff_right higher.ne').trans (and_iff_right higher)

theorem ofScore_isGreatest (nonzero : 0 < maxScore) :
    IsGreatest (reached score maxScore) (ofScore score maxScore).rank := by
  rw [reached_eq nonzero]
  exact isGreatest_Iic

theorem rank_le_of_ratio {other otherMax : UInt32} (nonzero : 0 < maxScore)
    (otherNonzero : 0 < otherMax)
    (ratio : (score.toNat : ℚ) / maxScore.toNat ≤ (other.toNat : ℚ) / otherMax.toNat) :
    (ofScore score maxScore).rank ≤ (ofScore other otherMax).rank := by
  refine (ofScore_isGreatest nonzero).mono (ofScore_isGreatest otherNonzero) ?_
  rintro i (zero | ⟨higher, listed, fraction⟩)
  · exact Or.inl zero
  · exact Or.inr ⟨higher, listed, fraction.trans ratio⟩

/-- The grade found by going up the ladder in words of 64 bits, each rung that is reached taking the
place of the one before. -/
def climb (score maxScore : UInt32) : Grade :=
  ladder.reverse.foldl (fun grade rung =>
    if UInt64.ofNat rung.1 * maxScore.toUInt64 ≤ score.toUInt64 * 9 then rung.2 else grade) .f

theorem products_lt (score maxScore : UInt32) : score.toNat * 9 < UInt64.size ∧
    ∀ rung ∈ ladder, rung.1 * maxScore.toNat < UInt64.size := by
  have small : score.toNat < 2 ^ 32 := score.toNat_lt
  have smallMax : maxScore.toNat < 2 ^ 32 := maxScore.toNat_lt
  have size : UInt64.size = 2 ^ 32 * 2 ^ 32 := rfl
  constructor
  · omega
  · rintro ⟨ninths, grade⟩ inside
    obtain ⟨-, rfl⟩ := mem_ladder_iff.mp inside
    have ninths := grade.rank_le
    rw [size]
    exact Nat.mul_lt_mul'' (by omega) smallMax

theorem word_le_iff (score maxScore : UInt32) {rung : Nat × Grade} (inside : rung ∈ ladder) :
    UInt64.ofNat rung.1 * maxScore.toUInt64 ≤ score.toUInt64 * 9 ↔
      rung.1 * maxScore.toNat ≤ score.toNat * 9 := by
  obtain ⟨scoreFits, rungsFit⟩ := products_lt score maxScore
  have rungFits := rungsFit rung inside
  have ninths : (UInt64.ofNat rung.1).toNat = rung.1 := by
    obtain ⟨-, same⟩ := mem_ladder_iff.mp inside
    have listed := rung.2.rank_le
    exact UInt64.toNat_ofNat_of_lt' (Nat.lt_of_le_of_lt (by omega : rung.1 ≤ 8) (by decide))
  have nine : (9 : UInt64).toNat = 9 := rfl
  rw [UInt64.le_iff_toNat_le, UInt64.toNat_mul, UInt64.toNat_mul, UInt32.toNat_toUInt64,
    UInt32.toNat_toUInt64, ninths, nine, Nat.mod_eq_of_lt rungFits, Nat.mod_eq_of_lt scoreFits]

theorem climb_eq (nonzero : 0 < maxScore) : climb score maxScore = ofScore score maxScore := by
  rw [ofScore_eq nonzero, ← foldl_reverse_overwrite]
  apply List.foldl_ext
  intro grade rung inside
  simp only [word_le_iff score maxScore (List.mem_reverse.mp inside), decide_eq_true_eq]

/-- The rank of a grade is the greatest whose ninths the score reaches, or zero; no product on the
way to it is cut to 64 bits. So a better score has no lesser grade, a higher greatest score no
better one, and two scores in one ratio to their greatest have the same. -/
theorem exact_ninths (score maxScore : UInt32) (nonzero : 0 < maxScore) :
    IsGreatest (reached score maxScore) (ofScore score maxScore).rank ∧
    (score.toNat * 9 < UInt64.size ∧ ∀ rung ∈ ladder, rung.1 * maxScore.toNat < UInt64.size) ∧
    climb score maxScore = ofScore score maxScore ∧
    (∀ better, score ≤ better →
      (ofScore score maxScore).rank ≤ (ofScore better maxScore).rank) ∧
    (∀ higher, maxScore ≤ higher →
      (ofScore score higher).rank ≤ (ofScore score maxScore).rank) ∧
    (∀ (scaled scaledMax : UInt32) (factor : ℚ), 0 < factor →
      (scaled.toNat : ℚ) = factor * score.toNat → (scaledMax.toNat : ℚ) = factor * maxScore.toNat →
      ofScore scaled scaledMax = ofScore score maxScore) := by
  have positive := toNat_pos nonzero
  refine ⟨ofScore_isGreatest nonzero, products_lt score maxScore, climb_eq nonzero, ?_, ?_, ?_⟩
  · intro better above
    apply rank_le_of_ratio nonzero nonzero
    have order : (score.toNat : ℚ) ≤ better.toNat :=
      Nat.cast_le.mpr (UInt32.le_iff_toNat_le.mp above)
    exact div_le_div_of_nonneg_right order positive.le
  · intro higher above
    have order : (maxScore.toNat : ℚ) ≤ higher.toNat :=
      Nat.cast_le.mpr (UInt32.le_iff_toNat_le.mp above)
    apply rank_le_of_ratio (UInt32.lt_of_lt_of_le nonzero above) nonzero
    exact div_le_div_of_nonneg_left (Nat.cast_nonneg _) positive order
  · intro scaled scaledMax factor grows times timesMax
    have scaledPositive : (0 : ℚ) < scaledMax.toNat := timesMax ▸ mul_pos grows positive
    have scaledNonzero : 0 < scaledMax := UInt32.lt_iff_toNat_lt.mpr (Nat.cast_pos.mp scaledPositive)
    have ratio : (scaled.toNat : ℚ) / scaledMax.toNat = (score.toNat : ℚ) / maxScore.toNat := by
      rw [times, timesMax, mul_div_mul_left _ _ grows.ne']
    apply rank_injective
    exact Nat.le_antisymm (rank_le_of_ratio scaledNonzero nonzero ratio.le)
      (rank_le_of_ratio nonzero scaledNonzero ratio.ge)

end Scores

theorem exact_ninths_of_eight_ninths :
    0 < (198 : UInt32) ∧ (ofScore 176 198).rank = 7 ∧ (ofScore 175 198).rank = 6 ∧
      IsGreatest (reached 176 198) 7 ∧
      (ofScore 176 198).rank ≤ (ofScore 177 198).rank ∧
      (ofScore 176 199).rank ≤ (ofScore 176 198).rank ∧
      ofScore 264 297 = ofScore 176 198 := by
  obtain ⟨greatest, -, -, mono, anti, scale⟩ := exact_ninths 176 198 (by decide)
  have words : (264 : UInt32).toNat = 264 ∧ (297 : UInt32).toNat = 297 ∧
      (176 : UInt32).toNat = 176 ∧ (198 : UInt32).toNat = 198 := by decide
  have same := scale 264 297 (3 / 2) (by norm_num) (by norm_num [words]) (by norm_num [words])
  exact ⟨by decide, by decide, by decide, greatest, mono 177 (by decide), anti 199 (by decide), same⟩

end Grade
end NoteChart
