import NoteChart.Proofs.Play.Account
import NoteChart.Proofs.Play.Tally

/-!
What a score tells of the judgments that were entered into it. A count says how often its judgment
was given to a note, the combo is the longest run of hits at the end, and the greatest combo is the
longest run of hits anywhere. A press that came too early for its note has no part in any of this.
-/
namespace NoteChart

def verdicts (given : List JudgeEvent) : List Judgment :=
  (given.filter fun event => !event.empty).map JudgeEvent.judgment

theorem verdicts_append (given later : List JudgeEvent) :
    verdicts (given ++ later) = verdicts given ++ verdicts later := by
  simp [verdicts]

theorem verdicts_single (event : JudgeEvent) :
    verdicts [event] = if event.empty then [] else [event.judgment] := by
  cases empty : event.empty <;> simp [verdicts, empty]

def IsUnbroken (run : List Judgment) : Prop := ∀ judgment ∈ run, judgment.breaksCombo = false

theorem isUnbroken_concat {run : List Judgment} {judgment : Judgment} :
    IsUnbroken (run ++ [judgment]) ↔ IsUnbroken run ∧ judgment.breaksCombo = false := by
  simp [IsUnbroken, or_imp, forall_and]

/-- The length of the longest unbroken run among some. -/
structure IsLongest (among : List Judgment → Prop) (length : Nat) : Prop where
  most : ∀ run, among run → IsUnbroken run → run.length ≤ length
  reached : ∃ run, among run ∧ IsUnbroken run ∧ run.length = length

namespace IsLongest

variable {given : List Judgment} {judgment : Judgment} {n m : Nat}

theorem broken (breaks : judgment.breaksCombo = true) : IsLongest (· <:+ given ++ [judgment]) 0 where
  most := by
    intro run ending unbroken
    rcases List.suffix_concat_iff.mp ending with rfl | ⟨front, rfl, -⟩
    · exact Nat.le_refl 0
    · have kept := (isUnbroken_concat.mp unbroken).2
      rw [breaks] at kept
      cases kept
  reached := ⟨[], List.nil_suffix, by simp [IsUnbroken], rfl⟩

theorem continued (longest : IsLongest (· <:+ given) n) (hits : judgment.breaksCombo = false) :
    IsLongest (· <:+ given ++ [judgment]) (n + 1) where
  most := by
    intro run ending unbroken
    rcases List.suffix_concat_iff.mp ending with rfl | ⟨front, rfl, inside⟩
    · exact Nat.zero_le _
    · have bound := longest.most front inside (isUnbroken_concat.mp unbroken).1
      simpa using bound
  reached := by
    obtain ⟨run, ending, unbroken, length⟩ := longest.reached
    refine ⟨run ++ [judgment], List.suffix_concat_iff.mpr (Or.inr ⟨run, rfl, ending⟩),
      isUnbroken_concat.mpr ⟨unbroken, hits⟩, by simp [length]⟩

theorem extended (longest : IsLongest (· <:+: given) m)
    (ending : IsLongest (· <:+ given ++ [judgment]) n) :
    IsLongest (· <:+: given ++ [judgment]) (max m n) where
  most := by
    intro run inside unbroken
    rcases List.infix_concat_iff.mp inside with last | before
    · exact le_max_of_le_right (ending.most run last unbroken)
    · exact le_max_of_le_left (longest.most run before unbroken)
  reached := by
    rcases le_total n m with below | above
    · obtain ⟨run, inside, unbroken, length⟩ := longest.reached
      exact ⟨run, List.infix_concat_iff.mpr (Or.inr inside), unbroken, by omega⟩
    · obtain ⟨run, last, unbroken, length⟩ := ending.reached
      exact ⟨run, last.isInfix, unbroken, by omega⟩

theorem le_length {among : List Judgment → Prop} (longest : IsLongest among n)
    (inside : ∀ run, among run → run.length ≤ given.length) : n ≤ given.length := by
  obtain ⟨run, found, -, rfl⟩ := longest.reached
  exact inside run found

theorem whole {among : List Judgment → Prop} (longest : IsLongest among n) (all : among given)
    (inside : ∀ run, among run → run.length ≤ given.length) (unbroken : IsUnbroken given) :
    n = given.length :=
  Nat.le_antisymm (longest.le_length inside) (longest.most given all unbroken)

theorem eq_length_iff (longest : IsLongest (· <:+: given) n) :
    n = given.length ↔ IsUnbroken given := by
  constructor
  · intro whole
    obtain ⟨run, inside, unbroken, length⟩ := longest.reached
    rwa [inside.eq_of_length (length.trans whole)] at unbroken
  · exact longest.whole List.infix_rfl fun _ inside => inside.length_le

end IsLongest

theorem JudgeCounts.get_increment (counts : JudgeCounts) (judgment other : Judgment) :
    (counts.increment judgment).get other =
      if judgment = other then counts.get other + 1 else counts.get other := by
  cases judgment <;> cases other <;> rfl

namespace Score

theorem countTiming_combos (score : Score) (judgment : Judgment) (diff : Float) :
    (score.countTiming judgment diff).combo = score.combo ∧
      (score.countTiming judgment diff).maxCombo = score.maxCombo := by
  cases judgment with
  | pgreat => exact ⟨rfl, rfl⟩
  | poor => exact ⟨rfl, rfl⟩
  | great | good | bad =>
    simp only [countTiming]
    split_ifs <;> exact ⟨rfl, rfl⟩

theorem record_combos (score : Score) (judgment : Judgment) (diff : Float) :
    (score.record judgment diff false).combo =
        (if judgment.breaksCombo then 0 else score.combo + 1) ∧
      (score.record judgment diff false).maxCombo =
        if judgment.breaksCombo then score.maxCombo else max score.maxCombo (score.combo + 1) := by
  have timed := countTiming_combos
    ({ score with counts := score.counts.increment judgment }.countCombo judgment) judgment diff
  cases breaks : judgment.breaksCombo <;> simpa [record, countCombo, breaks] using timed

structure Tells (score : Score) (given : List Judgment) : Prop where
  counts : ∀ judgment, (score.counts.get judgment).toNat = given.count judgment
  combo : IsLongest (· <:+ given) score.combo.toNat
  maxCombo : IsLongest (· <:+: given) score.maxCombo.toNat

namespace Tells

variable {score : Score} {given : List Judgment}

theorem zero : Score.zero.Tells [] where
  counts := by
    intro judgment
    cases judgment <;> rfl
  combo := ⟨fun run ending _ => ending.length_le, [], List.suffix_rfl, by simp [IsUnbroken], rfl⟩
  maxCombo := ⟨fun run inside _ => inside.length_le, [], List.infix_rfl, by simp [IsUnbroken], rfl⟩

theorem record_early (tells : score.Tells given) (judgment : Judgment) (diff : Float) :
    (score.record judgment diff true).Tells given :=
  ⟨tells.counts, tells.combo, tells.maxCombo⟩

theorem record (tells : score.Tells given) (few : given.length + 1 < UInt32.size)
    (judgment : Judgment) (diff : Float) :
    (score.record judgment diff false).Tells (given ++ [judgment]) := by
  obtain ⟨counts, combo, maxCombo⟩ := tells
  have next : (score.combo + 1).toNat = score.combo.toNat + 1 := by
    have bound := combo.le_length fun run ending => ending.length_le
    rw [UInt32.toNat_add]
    exact Nat.mod_eq_of_lt (Nat.lt_of_le_of_lt (Nat.succ_le_succ bound) few)
  obtain ⟨last, greatest⟩ := record_combos score judgment diff
  refine ⟨?_, ?_, ?_⟩
  · intro other
    have bound : given.count other ≤ given.length := List.count_le_length
    rw [record_counts, if_neg (by decide), JudgeCounts.get_increment, List.count_append,
      List.count_singleton, ← counts]
    rw [← counts] at bound
    by_cases same : judgment = other
    · rw [if_pos same, UInt32.toNat_add, if_pos (by simpa using same)]
      exact Nat.mod_eq_of_lt (Nat.lt_of_le_of_lt (Nat.succ_le_succ bound) few)
    · rw [if_neg same, if_neg (by simpa using same), Nat.add_zero]
  · rw [last]
    split_ifs with breaks
    · exact .broken breaks
    · rw [next]
      exact combo.continued (by simpa using breaks)
  · rw [greatest]
    split_ifs with breaks
    · have whole := maxCombo.extended (.broken breaks)
      rwa [Nat.max_zero] at whole
    · rw [UInt32.toNat_max, next]
      exact maxCombo.extended (combo.continued (by simpa using breaks))

theorem after (given : List JudgeEvent) (few : (verdicts given).length < UInt32.size) :
    (Score.zero.after given).Tells (verdicts given) := by
  induction given using List.reverseRecOn with
  | nil => exact zero
  | append_singleton front event ih =>
    rw [verdicts_append, List.length_append] at few
    have before := ih (by omega)
    rw [after_append, verdicts_append, verdicts_single]
    rw [verdicts_single] at few
    change ((Score.zero.after front).record event.judgment event.diff event.empty).Tells _
    cases empty : event.empty with
    | true => simpa using before.record_early event.judgment event.diff
    | false =>
      simp only [empty] at few
      exact before.record few event.judgment event.diff

theorem total (tells : score.Tells given) :
    score.counts.pgreat.toNat + score.counts.great.toNat + score.counts.good.toNat +
      score.counts.bad.toNat + score.counts.poor.toNat = given.length := by
  have tiers : ∀ tier : Judgment, tier ∈ Judgment.all := by
    intro tier
    cases tier <;> decide
  have each : given.length = (Judgment.all.map fun tier => given.count tier).sum := by
    clear tells
    induction given with
    | nil => rfl
    | cons judgment rest ih =>
      rw [List.length_cons, ih]
      cases judgment <;> simp [Judgment.all, List.count_cons] <;> omega
  rw [each]
  simp only [Judgment.all, List.map_cons, List.map_nil, List.sum_cons, List.sum_nil, ← tells.counts]
  change _ = score.counts.pgreat.toNat + (score.counts.great.toNat + (score.counts.good.toNat +
    (score.counts.bad.toNat + (score.counts.poor.toNat + 0))))
  omega

end Tells
end Score
end NoteChart
