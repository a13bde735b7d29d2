import NoteChart.Proofs.Play.FullCombo

/-!
A score as a figure of everything that was entered into it. All counters are kept entry by entry, and
each of them has a meaning for the entries as a whole: how many there are of a sort, how long the
longest run of hits is, how often a hit is followed by a miss. Presses that come too early for their
note have their own counter and no part in any other.
-/
namespace NoteChart

/-- What is entered into a score: a judgment, how far the press was from the note, and whether it was
a press too early for its note. -/
structure ScoreEntry where
  judgment : Judgment
  diff : Float
  empty : Bool
deriving DecidableEq, Repr

namespace ScoreEntry

def isTimed (entry : ScoreEntry) : Bool :=
  !entry.empty && (entry.judgment = .great || entry.judgment = .good || entry.judgment = .bad)

def isFast (entry : ScoreEntry) : Bool := entry.isTimed && entry.diff < 0.0
def isSlow (entry : ScoreEntry) : Bool := entry.isTimed && 0.0 < entry.diff

def verdicts (entries : List ScoreEntry) : List Judgment :=
  (entries.filter fun entry => !entry.empty).map judgment

theorem length_verdicts_le (entries : List ScoreEntry) :
    (verdicts entries).length ≤ entries.length := by
  rw [verdicts, List.length_map]
  exact List.length_filter_le _ _

theorem verdicts_concat (entries : List ScoreEntry) (entry : ScoreEntry) :
    verdicts (entries ++ [entry]) =
      if entry.empty then verdicts entries else verdicts entries ++ [entry.judgment] := by
  cases empty : entry.empty <;> simp [verdicts, empty]

end ScoreEntry

def breaksIn (given : List Judgment) : Nat :=
  (given.zip given.tail).countP fun pair => !pair.1.breaksCombo && pair.2.breaksCombo

theorem breaksIn_le (given : List Judgment) : breaksIn given ≤ given.length := by
  calc breaksIn given ≤ (given.zip given.tail).length := List.countP_le_length
    _ ≤ given.length := by simp

theorem zip_tail_concat (front : List Judgment) (last judgment : Judgment) :
    (front ++ [last] ++ [judgment]).zip (front ++ [last] ++ [judgment]).tail =
      (front ++ [last]).zip (front ++ [last]).tail ++ [(last, judgment)] := by
  induction front with
  | nil => rfl
  | cons first rest ih =>
    cases rest with
    | nil => rfl
    | cons second rest => exact congrArg ((first, second) :: ·) ih

theorem IsLongest.pos_iff {front : List Judgment} {last : Judgment} {n : Nat}
    (longest : IsLongest (· <:+ front ++ [last]) n) : 0 < n ↔ last.breaksCombo = false := by
  constructor
  · intro positive
    obtain ⟨run, ending, unbroken, rfl⟩ := longest.reached
    rcases List.suffix_concat_iff.mp ending with rfl | ⟨before, rfl, -⟩
    · simp at positive
    · exact (isUnbroken_concat.mp unbroken).2
  · intro hits
    exact longest.most [last] (List.suffix_append front [last]) (by simpa [IsUnbroken] using hits)

/-- The next judgment breaks something if it is a miss and there is a run at the end. -/
theorem breaksIn_concat {given : List Judgment} {n : Nat} (longest : IsLongest (· <:+ given) n)
    (judgment : Judgment) : breaksIn (given ++ [judgment]) =
      if judgment.breaksCombo = true ∧ 0 < n then breaksIn given + 1 else breaksIn given := by
  rcases List.eq_nil_or_concat given with rfl | ⟨front, last, rfl⟩
  · obtain rfl : n = 0 := Nat.le_zero.mp (longest.le_length fun run ending => ending.length_le)
    simp [breaksIn]
  · rw [List.concat_eq_append] at longest ⊢
    have run := longest.pos_iff
    unfold breaksIn
    rw [zip_tail_concat, List.countP_append, List.countP_singleton]
    cases judgment.breaksCombo <;> cases hits : last.breaksCombo <;> simp [run, hits]

namespace Score

def ofEntries (entries : List ScoreEntry) : Score :=
  entries.foldl (fun score entry => score.record entry.judgment entry.diff entry.empty) .zero

theorem ofEntries_concat (entries : List ScoreEntry) (entry : ScoreEntry) :
    ofEntries (entries ++ [entry]) =
      (ofEntries entries).record entry.judgment entry.diff entry.empty :=
  List.foldl_concat ..

theorem record_counters (score : Score) (entry : ScoreEntry) :
    let next := score.record entry.judgment entry.diff entry.empty
    next.comboBreaks = (if entry.empty = false ∧ entry.judgment.breaksCombo = true ∧
        0 < score.combo.toNat then score.comboBreaks + 1 else score.comboBreaks) ∧
      next.fast = (if entry.isFast then score.fast + 1 else score.fast) ∧
      next.slow = (if entry.isSlow then score.slow + 1 else score.slow) ∧
      next.emptyPoors = if entry.empty then score.emptyPoors + 1 else score.emptyPoors := by
  obtain ⟨judgment, diff, empty⟩ := entry
  have running : 0 < score.combo ↔ 0 < score.combo.toNat := UInt32.lt_iff_toNat_lt
  have apart : 0.0 < diff → ¬diff < 0.0 := by
    intro late early
    exact (Binary64.lt_iff.mp late).2.2.not_gt (Binary64.lt_iff.mp early).2.2
  cases empty with
  | true => simp [record, ScoreEntry.isFast, ScoreEntry.isSlow, ScoreEntry.isTimed]
  | false =>
    cases judgment with
    | pgreat | poor =>
      simp [record, countCombo, countTiming, ScoreEntry.isFast, ScoreEntry.isSlow,
        ScoreEntry.isTimed, Judgment.breaksCombo, running]
    | great | good | bad =>
      by_cases late : 0.0 < diff
      · simp [record, countCombo, countTiming, ScoreEntry.isFast, ScoreEntry.isSlow,
          ScoreEntry.isTimed, Judgment.breaksCombo, running, late, apart late]
      · by_cases early : diff < 0.0 <;>
          simp [record, countCombo, countTiming, ScoreEntry.isFast, ScoreEntry.isSlow,
            ScoreEntry.isTimed, Judgment.breaksCombo, running, late, early]

structure Explains (score : Score) (entries : List ScoreEntry) : Prop where
  tells : score.Tells (ScoreEntry.verdicts entries)
  breaks : score.comboBreaks.toNat = breaksIn (ScoreEntry.verdicts entries)
  fast : score.fast.toNat = entries.countP ScoreEntry.isFast
  slow : score.slow.toNat = entries.countP ScoreEntry.isSlow
  early : score.emptyPoors.toNat = entries.countP ScoreEntry.empty

theorem toNat_count {word : UInt32} {entries : List ScoreEntry} {p : ScoreEntry → Bool}
    (counts : word.toNat = entries.countP p) (few : entries.length + 1 < UInt32.size)
    (entry : ScoreEntry) :
    (if p entry then word + 1 else word).toNat = (entries ++ [entry]).countP p := by
  have bound : entries.countP p ≤ entries.length := List.countP_le_length
  rw [List.countP_append, List.countP_singleton, ← counts]
  rw [← counts] at bound
  split
  · rw [UInt32.toNat_add]
    exact Nat.mod_eq_of_lt (Nat.lt_of_le_of_lt (Nat.succ_le_succ bound) few)
  · rfl

namespace Explains

variable {score : Score} {entries : List ScoreEntry}

theorem zero : Score.zero.Explains [] := ⟨.zero, rfl, rfl, rfl, rfl⟩

theorem record (explains : score.Explains entries) (few : entries.length + 1 < UInt32.size)
    (entry : ScoreEntry) : (score.record entry.judgment entry.diff entry.empty).Explains
      (entries ++ [entry]) := by
  obtain ⟨tells, breaks, fast, slow, early⟩ := explains
  obtain ⟨breaks', fast', slow', early'⟩ := score.record_counters entry
  have short := ScoreEntry.length_verdicts_le entries
  refine ⟨?_, ?_, ?_, ?_, ?_⟩
  · rw [ScoreEntry.verdicts_concat]
    cases empty : entry.empty with
    | true => exact tells.record_early entry.judgment entry.diff
    | false => exact tells.record (by omega) entry.judgment entry.diff
  · rw [breaks', ScoreEntry.verdicts_concat]
    cases empty : entry.empty with
    | true => simpa using breaks
    | false =>
      have bound := breaksIn_le (ScoreEntry.verdicts entries)
      simp only [true_and, Bool.false_eq_true, if_false]
      rw [breaksIn_concat tells.combo, ← breaks]
      split
      · rw [UInt32.toNat_add]
        exact Nat.mod_eq_of_lt (show score.comboBreaks.toNat + 1 < UInt32.size by omega)
      · rfl
  · rw [fast']
    exact toNat_count fast few entry
  · rw [slow']
    exact toNat_count slow few entry
  · rw [early']
    exact toNat_count early few entry

theorem ofEntries (entries : List ScoreEntry) (few : entries.length < UInt32.size) :
    (Score.ofEntries entries).Explains entries := by
  induction entries using List.reverseRecOn with
  | nil => exact zero
  | append_singleton front entry ih =>
    rw [List.length_append, List.length_singleton] at few
    rw [ofEntries_concat]
    exact (ih (by omega)).record few entry

end Explains

theorem record_emptyPoors (score : Score) (judgment : Judgment) (diff : Float) (n : UInt32) :
    { score with emptyPoors := n }.record judgment diff false =
      { score.record judgment diff false with emptyPoors := n } := by
  cases judgment <;> simp only [record, countCombo, countTiming, Bool.false_eq_true, if_false] <;>
    split_ifs <;> rfl

theorem ofEntries_filter (entries : List ScoreEntry) :
    ofEntries entries = { ofEntries (entries.filter fun entry => !entry.empty) with
      emptyPoors := (ofEntries entries).emptyPoors } := by
  induction entries using List.reverseRecOn with
  | nil => rfl
  | append_singleton front entry ih =>
    rw [List.filter_append, ofEntries_concat]
    cases empty : entry.empty with
    | true =>
      rw [List.filter_cons_of_neg (by simp [empty]), List.filter_nil, List.append_nil, ih]
      rfl
    | false =>
      rw [List.filter_cons_of_pos (by simp [empty]), List.filter_nil, ofEntries_concat, empty, ih,
        record_emptyPoors]

/-- What the counters of a score say of all its entries. The tiers count the judgments of notes, the
combo is their longest run of hits at the end and the greatest combo the longest anywhere, a break is
a miss right after a hit, and the early and late hits are those off their note. Early presses have a
counter of their own and change nothing else, wherever they stand. -/
theorem ofEntries_counters (entries : List ScoreEntry) (few : entries.length < 2 ^ 31) :
    let score := ofEntries entries
    let given := ScoreEntry.verdicts entries
    ((∀ tier, (score.counts.get tier).toNat = given.count tier) ∧
      score.counts.total.toNat = given.length ∧
      score.exScore.toNat = 2 * given.count .pgreat + given.count .great) ∧
    (IsLongest (· <:+ given) score.combo.toNat ∧ IsLongest (· <:+: given) score.maxCombo.toNat ∧
      score.comboBreaks.toNat = breaksIn given) ∧
    (score.fast.toNat = entries.countP ScoreEntry.isFast ∧
      score.slow.toNat = entries.countP ScoreEntry.isSlow ∧
      score.emptyPoors.toNat = entries.countP ScoreEntry.empty) ∧
    ∀ others : List ScoreEntry, (others.filter fun entry => !entry.empty) =
        (entries.filter fun entry => !entry.empty) →
      ofEntries others = { score with emptyPoors := (ofEntries others).emptyPoors } := by
  intro score given
  have explains : score.Explains entries := .ofEntries entries (few.trans (by decide))
  have short : given.length < 2 ^ 31 := (ScoreEntry.length_verdicts_le entries).trans_lt few
  have tells : score.Tells given := explains.tells
  have points := (tells.sums short).1.2.2.2
  have sum := tells.total
  have total : score.counts.total.toNat = given.length := by
    unfold JudgeCounts.total
    simp only [UInt32.toNat_add]
    omega
  refine ⟨⟨tells.counts, total, points⟩, ⟨tells.combo, tells.maxCombo, explains.breaks⟩,
    ⟨explains.fast, explains.slow, explains.early⟩, ?_⟩
  intro others same
  calc ofEntries others = { ofEntries (others.filter fun entry => !entry.empty) with
        emptyPoors := (ofEntries others).emptyPoors } := ofEntries_filter others
    _ = { ofEntries (entries.filter fun entry => !entry.empty) with
        emptyPoors := (ofEntries others).emptyPoors } := by rw [same]
    _ = { score with emptyPoors := (ofEntries others).emptyPoors } := by
      change _ = { ofEntries entries with emptyPoors := (ofEntries others).emptyPoors }
      rw [ofEntries_filter entries]

theorem ofEntries_counters_of_two_misses :
    let entries := [⟨.great, -20.0, false⟩, ⟨.poor, -180.0, true⟩, ⟨.bad, 90.0, false⟩,
      (⟨.poor, 200.0, false⟩ : ScoreEntry)]
    entries.length < 2 ^ 31 ∧ (ofEntries entries).comboBreaks.toNat = 1 ∧
      (ofEntries entries).fast.toNat = 1 ∧ (ofEntries entries).emptyPoors.toNat = 1 := by
  intro entries
  have few : entries.length < 2 ^ 31 := by decide
  obtain ⟨-, ⟨-, -, breaks⟩, ⟨fast, -, early⟩, -⟩ := ofEntries_counters entries few
  refine ⟨few, breaks, ?_, early⟩
  rw [fast]
  decide +kernel

end Score
end NoteChart
