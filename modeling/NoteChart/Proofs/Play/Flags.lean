import NoteChart.Proofs.Play.Move
import Mathlib.Data.List.TakeWhile
import Mathlib.Tactic.ByContra

/-!
The flags of a session. There is one for each note, flags are only ever set, and a judgment on a
note sets its flag, which was not set before; so no note is judged twice. In the middle of a call
the cursor may lag behind the first note without a judgment, but it never runs ahead of it.
-/
namespace NoteChart.Session

def judgedLead (s : Session) : Nat := (s.judged.toList.takeWhile id).length

theorem getD_takeWhile (flags : List Bool) :
    flags.getD (flags.takeWhile id).length false = false ∧
      ∀ i < (flags.takeWhile id).length, flags.getD i false = true := by
  induction flags with
  | nil => exact ⟨rfl, fun i below => absurd below (Nat.not_lt_zero i)⟩
  | cons flag rest ih =>
    cases flag with
    | false => exact ⟨rfl, fun i below => absurd below (Nat.not_lt_zero i)⟩
    | true =>
      refine ⟨by simpa using ih.1, ?_⟩
      intro i below
      cases i with
      | zero => rfl
      | succ j => simpa using ih.2 j (by simpa using below)

theorem isJudged_eq (s : Session) (i : Nat) : s.isJudged i = s.judged.toList.getD i false := by
  simp [isJudged, Array.getD_eq_getD_getElem?]

theorem start_isJudged (setup : Setup) (i : Nat) : setup.start.isJudged i = false := by
  rw [isJudged_eq, List.getD_eq_getElem?_getD]
  simp only [Setup.start, Array.toList_replicate, List.getElem?_replicate]
  split <;> rfl

theorem isJudged_lead (s : Session) : s.isJudged s.judgedLead = false := by
  rw [isJudged_eq]
  exact (getD_takeWhile s.judged.toList).1

theorem isJudged_of_lt_lead {s : Session} {i : Nat} (below : i < s.judgedLead) :
    s.isJudged i = true := by
  rw [isJudged_eq]
  exact (getD_takeWhile s.judged.toList).2 i below

theorem lead_le_size (s : Session) : s.judgedLead ≤ s.judged.size :=
  (List.takeWhile_prefix id).length_le

theorem le_lead_iff {s : Session} {n : Nat} :
    n ≤ s.judgedLead ↔ ∀ i < n, s.isJudged i = true := by
  constructor
  · intro below i small
    exact isJudged_of_lt_lead (Nat.lt_of_lt_of_le small below)
  · intro all
    refine Nat.le_of_not_lt ?_
    intro beyond
    have judged := all s.judgedLead beyond
    rw [isJudged_lead] at judged
    cases judged

theorem count_judged_iff {s : Session} :
    s.judged.toList.count true = s.judged.size ↔ ∀ i < s.judged.size, s.isJudged i = true := by
  rw [← Array.length_toList, List.count_eq_length]
  constructor
  · intro set i below
    rw [isJudged_eq, List.getD_eq_getElem?_getD, List.getElem?_eq_getElem below]
    exact (set _ (List.getElem_mem below)).symm
  · intro all flag inside
    obtain ⟨i, below, rfl⟩ := List.mem_iff_getElem.mp inside
    have judged := all i below
    rw [isJudged_eq, List.getD_eq_getElem?_getD, List.getElem?_eq_getElem below] at judged
    exact judged.symm

theorem skipJudged_cursor {s : Session} (inside : s.cursor ≤ s.judgedLead) :
    s.skipJudged.cursor = s.judgedLead := by
  have lead := List.prefix_iff_eq_take.mp (List.takeWhile_prefix (l := s.judged.toList) id)
  -- all flags behind the cursor are set, so the scan from there finds the rest of the beginning
  have front : ∀ flag ∈ s.judged.toList.take s.cursor, id flag = true := by
    intro flag given
    have shorter : s.judged.toList.take s.cursor =
        (s.judged.toList.takeWhile id).take s.cursor := by
      rw [lead, List.take_take]
      congr 1
      exact (Nat.min_eq_left inside).symm
    rw [shorter] at given
    exact List.mem_takeWhile_imp (List.mem_of_mem_take given)
  have size : s.cursor ≤ s.judged.toList.length := Nat.le_trans inside s.lead_le_size
  have split : (s.judged.toList.take s.cursor ++ s.judged.toList.drop s.cursor).takeWhile id =
      s.judged.toList.take s.cursor ++ (s.judged.toList.drop s.cursor).takeWhile id :=
    List.takeWhile_append_of_pos front
  rw [List.take_append_drop] at split
  unfold skipJudged judgedLead
  rw [split, List.length_append, List.length_take, Nat.min_eq_left size]

theorem isJudged_mark {s : Session} {index : Nat} (inside : index < s.judged.size) (i : Nat) :
    (s.mark index).isJudged i = true ↔ i = index ∨ s.isJudged i = true := by
  unfold isJudged mark
  rw [Array.getD_eq_getD_getElem?, Array.getD_eq_getD_getElem?, Array.getElem?_setIfInBounds]
  split_ifs with same
  · simp [same]
  · simp [Ne.symm same]

section Apply

variable (s : Session) (index? : Option Nat) (lane : Lane) (judgment : Judgment) (diff : Float)
  (empty : Bool)

theorem apply_isJudged (i : Nat) :
    (s.apply index? lane judgment diff empty).2.isJudged i = s.isJudged i := by
  unfold isJudged
  rw [apply_judged]

theorem apply_lead : (s.apply index? lane judgment diff empty).2.judgedLead = s.judgedLead := by
  unfold judgedLead
  rw [apply_judged]

end Apply

def noteIndices (events : List PlayEvent) : List Nat :=
  (judgments events).filterMap JudgeEvent.index?

theorem noteIndices_append (events later : List PlayEvent) :
    noteIndices (events ++ later) = noteIndices events ++ noteIndices later := by
  simp [noteIndices]

/-- One flag for each note, and the cursor no further than all flags behind it are set. -/
structure Aligned (s : Session) : Prop where
  flags : s.judged.size = s.notes.length
  passed : s.cursor ≤ s.judgedLead

namespace Aligned

variable {s t : Session} {index : Nat}

theorem start (setup : Setup) : setup.start.Aligned := by
  refine ⟨?_, Nat.zero_le _⟩
  simp [Setup.start, notes]

theorem cursor_le (aligned : s.Aligned) : s.cursor ≤ s.notes.length := by
  rw [← aligned.flags]
  exact Nat.le_trans aligned.passed s.lead_le_size

theorem inside_of_window {first : Nat} {note : Note} (aligned : s.Aligned)
    (near : (note, index) ∈ s.window first) : index < s.judged.size := by
  obtain ⟨bound, -⟩ := List.getElem?_eq_some_iff.mp (mem_window.mp near).2.2
  rw [aligned.flags]
  exact bound

theorem inside_of_reach {lane : Lane} {time : Float} {target : Target} (aligned : s.Aligned)
    (reached : target ∈ s.inReach lane time) :
    target.index < s.judged.size ∧ s.isJudged target.index = false := by
  obtain ⟨note, near, fresh, -⟩ := mem_targets.mp reached
  exact ⟨aligned.inside_of_window near, fresh⟩

theorem judgeNote_isJudged (inside : index < s.judged.size) (lane : Lane) (judgment : Judgment)
    (diff : Float) (i : Nat) :
    (s.judgeNote index lane judgment diff).2.isJudged i = true ↔
      i = index ∨ s.isJudged i = true := by
  rw [← isJudged_mark inside]
  unfold isJudged
  rw [judgeNote_judged]
  rfl

theorem judgeNote (aligned : s.Aligned) (inside : index < s.judged.size) (lane : Lane)
    (judgment : Judgment) (diff : Float) :
    (s.judgeNote index lane judgment diff).2.Aligned := by
  refine ⟨by simpa [Session.notes] using aligned.flags, ?_⟩
  rw [judgeNote_cursor, le_lead_iff]
  intro i small
  rw [judgeNote_isJudged inside]
  exact Or.inr (le_lead_iff.mp aligned.passed i small)

theorem apply (aligned : s.Aligned) (index? : Option Nat) (lane : Lane) (judgment : Judgment)
    (diff : Float) (empty : Bool) :
    (s.apply index? lane judgment diff empty).2.Aligned := by
  refine ⟨by simpa [Session.notes] using aligned.flags, ?_⟩
  rw [apply_lead, apply_cursor]
  exact aligned.passed

theorem move (aligned : s.Aligned) {events : List PlayEvent} (move : Move s events t) :
    t.Aligned := by
  cases move with
  | tick time playing => exact ⟨aligned.flags, aligned.passed⟩
  | timed playing near fresh due => exact aligned.judgeNote (aligned.inside_of_window near) _ _ _
  | hit playing manual found =>
    exact aligned.judgeNote (aligned.inside_of_reach (hit?_mem found).1).1 _ _ _
  | early playing manual missed found => exact aligned.apply _ _ _ _ _
  | skip => exact ⟨aligned.flags, Nat.le_of_eq (skipJudged_cursor aligned.passed)⟩

theorem moves (aligned : s.Aligned) {events : List PlayEvent} (moves : Moves s events t) :
    t.Aligned :=
  moves.preserves (fun _ _ _ before move => before.move move) aligned

theorem run (aligned : s.Aligned) (calls : List Call) : (s.run calls).2.Aligned :=
  run_preserves (P := Aligned)
    (step_preserves (fun s _ => start s.setup) fun _ _ _ before move => before.move move) s calls
    aligned

theorem grows (aligned : s.Aligned) {events : List PlayEvent} (move : Move s events t) :
    (∀ i, s.isJudged i = true → t.isJudged i = true) ∧ s.cursor ≤ t.cursor := by
  cases move with
  | tick time playing => exact ⟨fun i judged => judged, Nat.le_refl _⟩
  | timed playing near fresh due =>
    have inside := aligned.inside_of_window near
    exact ⟨fun i judged => (judgeNote_isJudged inside _ _ _ i).mpr (Or.inr judged), by simp⟩
  | hit playing manual found =>
    have inside := (aligned.inside_of_reach (hit?_mem found).1).1
    exact ⟨fun i judged => (judgeNote_isJudged inside _ _ _ i).mpr (Or.inr judged), by simp⟩
  | early playing manual missed found =>
    exact ⟨fun i before => by rwa [apply_isJudged], by simp⟩
  | skip => exact ⟨fun i judged => judged, Nat.le_add_right _ _⟩

theorem moves_grow (aligned : s.Aligned) {events : List PlayEvent} (moves : Moves s events t) :
    (∀ i, s.isJudged i = true → t.isJudged i = true) ∧ s.cursor ≤ t.cursor := by
  induction moves with
  | none s => exact ⟨fun i judged => judged, Nat.le_refl _⟩
  | cons first rest ih =>
    obtain ⟨flags, forward⟩ := aligned.grows first
    obtain ⟨flags', forward'⟩ := ih (aligned.move first)
    exact ⟨fun i judged => flags' i (flags i judged), Nat.le_trans forward forward'⟩

theorem judgeNote_indices (s : Session) (index : Nat) (lane : Lane) (judgment : Judgment)
    (diff : Float) : noteIndices (s.judgeNote index lane judgment diff).1 = [index] := by
  simp [noteIndices]

theorem move_indices (aligned : s.Aligned) {events : List PlayEvent} (move : Move s events t) :
    (noteIndices events).Nodup ∧ ∀ i ∈ noteIndices events,
      i < s.judged.size ∧ s.isJudged i = false ∧ t.isJudged i = true := by
  cases move with
  | tick time playing => simp [noteIndices]
  | timed playing near fresh due =>
    have inside := aligned.inside_of_window near
    simpa [judgeNote_indices] using
      ⟨inside, fresh, (judgeNote_isJudged inside _ _ _ _).mpr (Or.inl rfl)⟩
  | hit playing manual found =>
    obtain ⟨inside, fresh⟩ := aligned.inside_of_reach (hit?_mem found).1
    simpa [judgeNote_indices] using
      ⟨inside, fresh, (judgeNote_isJudged inside _ _ _ _).mpr (Or.inl rfl)⟩
  | early playing manual missed found => simp [noteIndices]
  | skip => simp [noteIndices]

theorem moves_indices (aligned : s.Aligned) {events : List PlayEvent} (moves : Moves s events t) :
    (noteIndices events).Nodup ∧ ∀ i ∈ noteIndices events,
      i < s.judged.size ∧ s.isJudged i = false ∧ t.isJudged i = true := by
  induction moves with
  | none s => simp [noteIndices]
  | @cons s m t events later first rest ih =>
    obtain ⟨once, judged⟩ := aligned.move_indices first
    obtain ⟨once', judged'⟩ := ih (aligned.move first)
    have grown := aligned.grows first
    have size : m.judged.size = s.judged.size := by
      rw [(aligned.move first).flags, aligned.flags, notes, first.same_setup]
      rfl
    rw [noteIndices_append]
    refine ⟨List.nodup_append.mpr ⟨once, once', ?_⟩, ?_⟩
    · rintro i now j after rfl
      have fresh := (judged' i after).2.1
      rw [(judged i now).2.2] at fresh
      cases fresh
    · intro i inside
      rcases List.mem_append.mp inside with now | after
      · obtain ⟨bound, fresh, set⟩ := judged i now
        exact ⟨bound, fresh, ((aligned.move first).moves_grow rest).1 i set⟩
      · obtain ⟨bound, fresh, set⟩ := judged' i after
        refine ⟨size ▸ bound, ?_, set⟩
        by_contra before
        rw [grown.1 i (by simpa using before)] at fresh
        cases fresh

theorem moves_judged_index (aligned : s.Aligned) {events : List PlayEvent}
    (moves : Moves s events t) {event : JudgeEvent} {i : Nat} (given : .judge event ∈ events)
    (about : event.index? = some i) :
    i < s.judged.size ∧ s.isJudged i = false ∧ t.isJudged i = true :=
  (aligned.moves_indices moves).2 i
    (List.mem_filterMap.mpr ⟨event, mem_judgments.mpr given, about⟩)

end Aligned
end NoteChart.Session
