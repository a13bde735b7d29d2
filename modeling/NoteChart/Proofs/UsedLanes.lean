import NoteChart.Command.Summary
import NoteChart.Proofs.Interleaving
import NoteChart.Proofs.Timeline
import Mathlib.Data.List.Perm.Basic

/-!
The lanes of a chart. The used lanes are found by sorting the lanes of all notes and dropping
repetitions, and the notes of one lane by a test for equality. The two fit together, as lanes of one
rank are equal: the used lanes divide the notes among them.
-/
namespace NoteChart

section Repetitions

variable {α : Type} [DecidableEq α]

theorem eraseReps_cons (first : α) (rest : List α) :
    (first :: rest).eraseReps = List.eraseRepsBy.loop (· == ·) first rest [] := rfl

theorem eraseReps_loop (first : α) (rest done : List α) :
    List.eraseRepsBy.loop (· == ·) first rest done = done.reverse ++ (first :: rest).eraseReps := by
  induction rest generalizing first done with
  | nil => simp [List.eraseReps, List.eraseRepsBy, List.eraseRepsBy.loop]
  | cons next rest ih =>
    simp only [eraseReps_cons first, List.eraseRepsBy.loop]
    split
    · simp [ih first]
    · simp [ih next]

theorem eraseReps_cons_cons (first next : α) (rest : List α) :
    (first :: next :: rest).eraseReps =
      if first = next then (next :: rest).eraseReps else first :: (next :: rest).eraseReps := by
  rw [eraseReps_cons]
  simp only [List.eraseRepsBy.loop, eraseReps_loop]
  by_cases same : first = next
  · subst same
    simp
  · have apart : (first == next) = false := beq_eq_false_iff_ne.mpr same
    simp [same, apart]

theorem mem_eraseReps {items : List α} {a : α} : a ∈ items.eraseReps ↔ a ∈ items := by
  induction items with
  | nil => rfl
  | cons first rest ih =>
    cases rest with
    | nil => rfl
    | cons next rest =>
      rw [eraseReps_cons_cons, List.mem_cons, ← ih]
      split_ifs with same
      · subst same
        simp [ih]
      · exact List.mem_cons

/-- In a sorted list equal items are neighbours, and one of them is left. -/
theorem eraseReps_ascending {rank : α → Nat} (injective : Function.Injective rank) {items : List α}
    (sorted : items.Pairwise (rank · ≤ rank ·)) : items.eraseReps.Pairwise (rank · < rank ·) := by
  induction items with
  | nil => exact .nil
  | cons first rest ih =>
    obtain ⟨least, sorted⟩ := List.pairwise_cons.mp sorted
    cases rest with
    | nil => exact List.pairwise_singleton _ _
    | cons next rest =>
      rw [eraseReps_cons_cons]
      split_ifs with same
      · exact ih sorted
      · apply List.pairwise_cons.mpr ⟨_, ih sorted⟩
        intro later inside
        have strict : rank first < rank next :=
          Nat.lt_of_le_of_ne (least next List.mem_cons_self) (injective.ne same)
        rcases List.mem_cons.mp (mem_eraseReps.mp inside) with rfl | inside
        · exact strict
        · exact Nat.lt_of_lt_of_le strict (List.rel_of_pairwise_cons sorted inside)

end Repetitions

theorem flatMap_filter_perm {α κ : Type} [DecidableEq κ] (key : α → κ) {keys : List κ}
    (distinct : keys.Nodup) (items : List α) :
    (keys.flatMap fun k => items.filter (key · = k)).Perm (items.filter (key · ∈ keys)) := by
  induction keys with
  | nil => simp
  | cons k keys ih =>
    obtain ⟨fresh, distinct⟩ := List.nodup_cons.mp distinct
    have those : (items.filter (key · ∈ k :: keys)).filter (key · = k) =
        items.filter (key · = k) := by
      rw [List.filter_filter]
      apply List.filter_congr
      intro item _
      by_cases same : key item = k <;> simp [same]
    have others : (items.filter (key · ∈ k :: keys)).filter (fun item => !decide (key item = k)) =
        items.filter (key · ∈ keys) := by
      rw [List.filter_filter]
      apply List.filter_congr
      intro item _
      by_cases same : key item = k
      · simp [same, fresh]
      · simp [same]
    have divided := List.filter_append_perm (key · = k) (items.filter (key · ∈ k :: keys))
    rw [those, others] at divided
    rw [List.flatMap_cons]
    exact ((ih distinct).append_left _).trans divided

inductive Side.IsBefore : Side → Side → Prop
  | sides : IsBefore .p1 .p2

inductive Role.IsBefore : Role → Role → Prop
  | scratch (number : UInt8) : IsBefore .scratch (.key number)
  | keys {m n : UInt8} (lower : m < n) : IsBefore (.key m) (.key n)

theorem Side.before_or_eq_or_after (a b : Side) : a.IsBefore b ∨ a = b ∨ b.IsBefore a := by
  cases a with
  | p1 =>
    cases b with
    | p1 => exact Or.inr (Or.inl rfl)
    | p2 => exact Or.inl .sides
  | p2 =>
    cases b with
    | p1 => exact Or.inr (Or.inr .sides)
    | p2 => exact Or.inr (Or.inl rfl)

theorem Role.before_or_eq_or_after (a b : Role) : a.IsBefore b ∨ a = b ∨ b.IsBefore a := by
  cases a with
  | scratch =>
    cases b with
    | scratch => exact Or.inr (Or.inl rfl)
    | key n => exact Or.inl (.scratch n)
  | key m =>
    cases b with
    | scratch => exact Or.inr (Or.inr (.scratch m))
    | key n =>
      by_cases same : m = n
      · exact Or.inr (Or.inl (congrArg Role.key same))
      · rcases UInt8.lt_or_lt_of_ne same with lower | higher
        · exact Or.inl (.keys lower)
        · exact Or.inr (Or.inr (.keys higher))

namespace Lane

/-- By side, and on one side by role. -/
inductive IsBefore (a b : Lane) : Prop
  | side (before : a.side.IsBefore b.side)
  | role (same : a.side = b.side) (before : a.role.IsBefore b.role)

theorem IsBefore.rank_lt {a b : Lane} (before : a.IsBefore b) : a.rank < b.rank := by
  obtain ⟨side, role⟩ := a
  obtain ⟨side', role'⟩ := b
  cases before with
  | side before =>
    cases before
    cases role with
    | scratch => simp only [rank]; omega
    | key n =>
      have := n.toNat_lt
      simp only [rank]
      omega
  | role same before =>
    cases same
    cases before with
    | scratch n => simp only [rank]; omega
    | keys lower =>
      have := UInt8.lt_iff_toNat_lt.mp lower
      simp only [rank]
      omega

theorem before_or_eq_or_after (a b : Lane) : a.IsBefore b ∨ a = b ∨ b.IsBefore a := by
  obtain ⟨side, role⟩ := a
  obtain ⟨side', role'⟩ := b
  rcases side.before_or_eq_or_after side' with before | rfl | after
  · exact Or.inl (.side before)
  · rcases role.before_or_eq_or_after role' with before | rfl | after
    · exact Or.inl (.role rfl before)
    · exact Or.inr (Or.inl rfl)
    · exact Or.inr (Or.inr (.role rfl after))
  · exact Or.inr (Or.inr (.side after))

theorem rank_injective : Function.Injective rank := by
  intro a b same
  rcases before_or_eq_or_after a b with before | equal | after
  · exact absurd same (Nat.ne_of_lt before.rank_lt)
  · exact equal
  · exact absurd same.symm (Nat.ne_of_lt after.rank_lt)

theorem isBefore_of_rank_lt {a b : Lane} (lower : a.rank < b.rank) : a.IsBefore b := by
  rcases before_or_eq_or_after a b with before | rfl | after
  · exact before
  · exact absurd lower (Nat.lt_irrefl _)
  · exact absurd after.rank_lt (Nat.lt_asymm lower)

end Lane

namespace Chart

variable (chart : Chart)

theorem usedLanes_ascending : chart.usedLanes.Pairwise Lane.IsBefore := by
  have sorted := mergeSort_sorted Lane.rank (chart.notes.map Note.lane)
  exact (eraseReps_ascending Lane.rank_injective sorted).imp Lane.isBefore_of_rank_lt

theorem mem_usedLanes {lane : Lane} :
    lane ∈ chart.usedLanes ↔ ∃ note ∈ chart.notes, note.lane = lane := by
  rw [usedLanes, mem_eraseReps, List.mem_mergeSort, List.mem_map]

theorem usedLanes_nodup : chart.usedLanes.Nodup := by
  refine chart.usedLanes_ascending.imp fun before => ?_
  rintro rfl
  exact Nat.lt_irrefl _ before.rank_lt

variable {chart}

theorem mem_laneNotes {lane : Lane} {note : Note} :
    note ∈ chart.laneNotes lane ↔ note ∈ chart.notes ∧ note.lane = lane := by
  simp [laneNotes]

theorem lane_used {note : Note} (inside : note ∈ chart.notes) : note.lane ∈ chart.usedLanes :=
  chart.mem_usedLanes.mpr ⟨note, inside, rfl⟩

variable (chart)

theorem laneNotes_perm : (chart.usedLanes.flatMap chart.laneNotes).Perm chart.notes := by
  have divided := flatMap_filter_perm Note.lane chart.usedLanes_nodup chart.notes
  have all : chart.notes.filter (·.lane ∈ chart.usedLanes) = chart.notes := by
    apply List.filter_eq_self.mpr
    intro note inside
    exact decide_eq_true (lane_used inside)
  rw [all] at divided
  exact divided

theorem exists_unique_lane {note : Note} (inside : note ∈ chart.notes) :
    ∃! lane, lane ∈ chart.usedLanes ∧ note ∈ chart.laneNotes lane := by
  refine ⟨note.lane, ⟨lane_used inside, mem_laneNotes.mpr ⟨inside, rfl⟩⟩, ?_⟩
  rintro lane ⟨-, there⟩
  exact (mem_laneNotes.mp there).2.symm

theorem laneNotes_sublist (lane : Lane) : (chart.laneNotes lane).Sublist chart.notes :=
  List.filter_sublist

theorem laneNotes_pos {lane : Lane} (used : lane ∈ chart.usedLanes) :
    0 < (chart.laneNotes lane).length := by
  obtain ⟨note, inside, same⟩ := chart.mem_usedLanes.mp used
  exact List.length_pos_of_mem (mem_laneNotes.mpr ⟨inside, same⟩)

theorem laneSummaries_lanes : chart.laneSummaries.map LaneSummary.lane = chart.usedLanes := by
  simp [laneSummaries, Function.comp_def]

theorem laneSummaries_sum :
    (chart.laneSummaries.map LaneSummary.notes).sum = chart.notes.length := by
  have counts : chart.laneSummaries.map LaneSummary.notes =
      chart.usedLanes.map fun lane => (chart.laneNotes lane).length := by
    simp [laneSummaries, Function.comp_def]
  rw [counts, ← List.length_flatMap, chart.laneNotes_perm.length_eq]

theorem laneSummaries_count {summary : LaneSummary} (inside : summary ∈ chart.laneSummaries) :
    summary.notes = (chart.laneNotes summary.lane).length ∧ 0 < summary.notes := by
  obtain ⟨lane, used, rfl⟩ := List.mem_map.mp inside
  exact ⟨rfl, chart.laneNotes_pos used⟩

theorem maxExScore_toNat (few : chart.noteCount < 2 ^ 31) :
    chart.maxExScore.toNat = 2 * chart.noteCount := by
  have two : (2 : UInt32).toNat = 2 := rfl
  have size : chart.noteCount < UInt32.size := Nat.lt_trans few (by decide)
  rw [maxExScore, UInt32.toNat_mul, UInt32.toNat_ofNat_of_lt' size, two]
  omega

def turned : Source :=
  ⟨[.header "BPM" "120", .row 0 ⟨0x11, "01", 2⟩, .row 1 ⟨0x16, "02", 3⟩, .row 2 ⟨0x11, "03", 4⟩]⟩

theorem turned_notes : (ofSource turned).notes =
    [⟨0.0, 0x11, .key .p1 1, ⟨1⟩⟩, ⟨2000.0, 0x16, .scratch .p1, ⟨2⟩⟩,
      ⟨4000.0, 0x11, .key .p1 1, ⟨3⟩⟩] := by
  have first : measureCells (turned.rows 0) = [⟨.note (.key .p1 1), 0x11, 1, 0.0⟩] :=
    measureCells_single ⟨0x11, "01", 2⟩ (by decide +kernel)
  have second : measureCells (turned.rows 1) = [⟨.note (.scratch .p1), 0x16, 2, 0.0⟩] :=
    measureCells_single ⟨0x16, "02", 3⟩ (by decide +kernel)
  have third : measureCells (turned.rows 2) = [⟨.note (.key .p1 1), 0x11, 3, 0.0⟩] :=
    measureCells_single ⟨0x11, "03", 4⟩ (by decide +kernel)
  have measures : turned.measures = [0, 1, 2] := rfl
  change turned.timeline.1.filterMap Event.note? = _
  rw [Source.timeline, measures]
  simp only [walkMeasures, walkMeasure, first, second, third]
  decide +kernel

theorem turned_summaries :
    (ofSource turned).laneSummaries = [⟨.scratch .p1, 1⟩, ⟨.key .p1 1, 2⟩] := by
  have sorted : ((ofSource turned).notes.map Note.lane).mergeSort Lane.precedes =
      [.scratch .p1, .key .p1 1, .key .p1 1] := by
    simp [turned_notes, List.mergeSort, Lane.precedes, Lane.rank, Lane.key, Lane.scratch]
  rw [laneSummaries, usedLanes, sorted]
  unfold laneNotes
  rw [turned_notes]
  decide +kernel

/-- The used lanes come from left to right, each once, and they are the lanes with a note on them.
They divide the notes: each note is on exactly one of them, its own, whose notes are in the order
they have in the chart. The summary lists the used lanes, none without notes, and its counts add up
to the number of notes, which is half the best score of a chart made from a source. -/
theorem lanes_partition :
    chart.usedLanes.Pairwise Lane.IsBefore ∧
    (∀ lane, lane ∈ chart.usedLanes ↔ ∃ note ∈ chart.notes, note.lane = lane) ∧
    (chart.usedLanes.flatMap chart.laneNotes).Perm chart.notes ∧
    (∀ note ∈ chart.notes, ∃! lane, lane ∈ chart.usedLanes ∧ note ∈ chart.laneNotes lane) ∧
    (∀ lane,
      (∀ note ∈ chart.laneNotes lane, note.lane = lane) ∧
      (chart.laneNotes lane).Sublist chart.notes ∧
      ((chart.notes.map Note.time).Pairwise (· ≤ ·) →
        ((chart.laneNotes lane).map Note.time).Pairwise (· ≤ ·))) ∧
    chart.laneSummaries.map LaneSummary.lane = chart.usedLanes ∧
    (∀ summary ∈ chart.laneSummaries,
      summary.notes = (chart.laneNotes summary.lane).length ∧ 0 < summary.notes) ∧
    (chart.laneSummaries.map LaneSummary.notes).sum = chart.notes.length ∧
    (chart.IsCompiled → chart.notes.length < 2 ^ 31 →
      chart.notes.length = chart.noteCount ∧ chart.maxExScore.toNat = 2 * chart.noteCount) := by
  refine ⟨chart.usedLanes_ascending, fun lane => chart.mem_usedLanes, chart.laneNotes_perm,
    fun note => chart.exists_unique_lane, ?_, chart.laneSummaries_lanes,
    fun summary => chart.laneSummaries_count, chart.laneSummaries_sum, ?_⟩
  · intro lane
    have part := chart.laneNotes_sublist lane
    refine ⟨fun note inside => (mem_laneNotes.mp inside).2, part, ?_⟩
    intro timed
    exact timed.sublist (part.map Note.time)
  · intro compiled few
    rw [← compiled.noteCount] at few
    exact ⟨compiled.noteCount.symm, chart.maxExScore_toNat few⟩

theorem lanes_partition_of_turned :
    let chart := ofSource turned
    chart.IsCompiled ∧ chart.notes.length < 2 ^ 31 ∧
      (chart.notes.map Note.time).Pairwise (· ≤ ·) ∧
      chart.usedLanes = [.scratch .p1, .key .p1 1] ∧
      ((chart.laneNotes (.key .p1 1)).map Note.time).Pairwise (· ≤ ·) ∧
      [1, 2].sum = chart.notes.length ∧
      chart.notes.length = chart.noteCount ∧ chart.maxExScore.toNat = 2 * chart.noteCount := by
  intro chart
  have compiled : chart.IsCompiled := ofSource_isCompiled turned
  have few : chart.notes.length < 2 ^ 31 := by
    rw [turned_notes]
    decide
  have timed : (chart.notes.map Note.time).Pairwise (· ≤ ·) := by
    rw [turned_notes]
    decide +kernel
  obtain ⟨-, -, -, -, parts, listed, -, sum, counts⟩ := chart.lanes_partition
  rw [turned_summaries] at listed sum
  exact ⟨compiled, few, timed, listed.symm, (parts _).2.2 timed, sum, counts compiled few⟩

end Chart
end NoteChart
