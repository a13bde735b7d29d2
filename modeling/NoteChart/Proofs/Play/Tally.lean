import NoteChart.Proofs.Play.Flags
import Mathlib

/-!
Flags, cursor and tallies of a session. A flag is set exactly when a judgment is counted. In the
middle of a call the cursor may lag behind the first note without a judgment; at the end of every
call it is there.
-/
namespace NoteChart

theorem JudgeCounts.total_increment (counts : JudgeCounts) (judgment : Judgment) :
    (counts.increment judgment).total = counts.total + 1 := by
  cases judgment <;> simp only [increment, total] <;> ac_rfl

theorem Score.countCombo_counts (score : Score) (judgment : Judgment) :
    (score.countCombo judgment).counts = score.counts := by
  unfold countCombo
  split <;> rfl

theorem Score.countTiming_counts (score : Score) (judgment : Judgment) (diff : Float) :
    (score.countTiming judgment diff).counts = score.counts := by
  cases judgment with
  | pgreat => rfl
  | poor => rfl
  | great | good | bad =>
    simp only [countTiming]
    split_ifs <;> rfl

theorem Score.record_counts (score : Score) (judgment : Judgment) (diff : Float) (empty : Bool) :
    (score.record judgment diff empty).counts =
      if empty then score.counts else score.counts.increment judgment := by
  cases empty with
  | true => rfl
  | false => simp [record, countTiming_counts, countCombo_counts]

namespace Session

theorem count_mark {s : Session} {index : Nat} (inside : index < s.judged.size)
    (fresh : s.isJudged index = false) :
    (s.mark index).judged.toList.count true = s.judged.toList.count true + 1 := by
  have flag : s.judged.toList[index] = false := by
    rw [isJudged_eq, List.getD_eq_getElem?_getD, List.getElem?_eq_getElem inside] at fresh
    exact fresh
  have place : (s.mark index).judged.toList = s.judged.toList.set index true := by
    simp [mark]
  rw [place, List.count_set inside, flag]
  simp

theorem judgeNote_flags {s : Session} {index : Nat} (inside : index < s.judged.size)
    (fresh : s.isJudged index = false) (lane : Lane) (judgment : Judgment) (diff : Float) :
    (s.judgeNote index lane judgment diff).2.judged.toList.count true =
      s.judged.toList.count true + 1 := by
  have judged : (s.judgeNote index lane judgment diff).2.judged = (s.mark index).judged := by
    simp [mark]
  rw [judged, count_mark inside fresh]

theorem judgeNote_counts (s : Session) (index : Nat) (lane : Lane) (judgment : Judgment)
    (diff : Float) :
    (s.judgeNote index lane judgment diff).2.score.counts = s.score.counts.increment judgment := by
  rw [judgeNote_score, Score.record_counts, if_neg (by decide)]

/-- Flags, cursor and counts agree, for so many notes. The cursor may still lag behind. -/
structure Tallied (s : Session) (count : Nat) : Prop where
  notes : s.notes.length = count
  flags : s.judged.size = count
  passed : s.cursor ≤ s.judgedLead
  total : s.score.counts.total.toNat = s.judged.toList.count true

namespace Tallied

variable {s t : Session} {count index : Nat}

theorem aligned (tallied : s.Tallied count) : s.Aligned :=
  ⟨tallied.flags.trans tallied.notes.symm, tallied.passed⟩

theorem inside_of_window {first : Nat} {note : Note} (tallied : s.Tallied count)
    (near : (note, index) ∈ s.window first) : index < s.judged.size :=
  tallied.aligned.inside_of_window near

theorem count_le (tallied : s.Tallied count) : s.judged.toList.count true ≤ count := by
  rw [← tallied.flags]
  exact List.count_le_length

theorem judgeNote (few : count < 2 ^ 31) (tallied : s.Tallied count)
    (inside : index < s.judged.size) (fresh : s.isJudged index = false) (lane : Lane)
    (judgment : Judgment) (diff : Float) :
    (s.judgeNote index lane judgment diff).2.Tallied count := by
  refine ⟨by simpa [Session.notes] using tallied.notes, by simpa using tallied.flags,
    (tallied.aligned.judgeNote inside lane judgment diff).passed, ?_⟩
  have bound := tallied.count_le
  rw [judgeNote_flags inside fresh, judgeNote_counts, JudgeCounts.total_increment,
    UInt32.toNat_add, tallied.total]
  have word : (1 : UInt32).toNat = 1 := rfl
  rw [word]
  omega

theorem apply_empty (tallied : s.Tallied count) (lane : Lane) (diff : Float) :
    (s.apply none lane .poor diff true).2.Tallied count := by
  refine ⟨by simpa [Session.notes] using tallied.notes, by simpa using tallied.flags,
    (tallied.aligned.apply _ _ _ _ _).passed, ?_⟩
  rw [apply_judged, apply_score, Score.record_counts, if_pos rfl]
  exact tallied.total

theorem move (few : count < 2 ^ 31) (tallied : s.Tallied count) {events : List PlayEvent}
    (move : Move s events t) : t.Tallied count := by
  cases move with
  | tick time playing => exact ⟨tallied.notes, tallied.flags, tallied.passed, tallied.total⟩
  | timed playing near fresh due =>
    exact tallied.judgeNote few (tallied.inside_of_window near) fresh _ _ _
  | hit playing manual found =>
    obtain ⟨inside, fresh⟩ := tallied.aligned.inside_of_reach (hit?_mem found).1
    exact tallied.judgeNote few inside fresh _ _ _
  | early playing manual missed found => exact tallied.apply_empty _ _
  | skip =>
    exact ⟨tallied.notes, tallied.flags, (skipJudged_cursor tallied.passed).le, tallied.total⟩

theorem moves (few : count < 2 ^ 31) (tallied : s.Tallied count) {events : List PlayEvent}
    (moves : Moves s events t) : t.Tallied count := by
  have keeps (a : Session) (events : List PlayEvent) (b : Session) (before : a.Tallied count)
      (m : Move a events b) : b.Tallied count := before.move few m
  exact moves.preserves keeps tallied

end Tallied

/-- Between calls the cursor is at the first note without a judgment. -/
structure Consistent (s : Session) (count : Nat) : Prop where
  tallied : s.Tallied count
  settled : s.cursor = s.judgedLead

namespace Consistent

variable {s : Session} {count : Nat}

theorem start {setup : Setup} (notes : setup.chart.notes.length = count) :
    setup.start.Consistent count := by
  have clear : setup.start.judged.toList = List.replicate count false := by
    simp [Setup.start, notes]
  have lead : setup.start.judgedLead = 0 := by
    unfold judgedLead
    rw [clear]
    cases count <;> rfl
  refine ⟨⟨notes, by simp [Setup.start, notes], ?_, ?_⟩, ?_⟩
  · exact Nat.zero_le _
  · rw [clear, List.count_replicate]
    rfl
  · rw [lead]
    rfl

theorem skip (tallied : s.Tallied count) : s.skipJudged.Consistent count :=
  have reached := skipJudged_cursor tallied.passed
  ⟨⟨tallied.notes, tallied.flags, reached.le, tallied.total⟩, reached⟩

theorem step (few : count < 2 ^ 31) (consistent : s.Consistent count) (call : Call) :
    (s.step call).2.Consistent count := by
  obtain ⟨tallied, settled⟩ := consistent
  cases call with
  | advance time =>
    change (s.advance time).2.Consistent count
    rcases s.advance_cases time with same | ⟨events, m, moves, same⟩
    · rw [same]
      exact ⟨tallied, settled⟩
    · rw [same]
      exact skip (tallied.moves few moves)
  | press lane time =>
    change (s.press lane time).2.Consistent count
    rcases s.press_cases lane time with same | ⟨events, m, move, same⟩ | ⟨diff, move, same⟩
    · rw [same]
      exact ⟨tallied, settled⟩
    · rw [same]
      exact skip (tallied.move few move)
    · rw [same]
      refine ⟨tallied.move few move, ?_⟩
      rw [apply_lead, apply_cursor]
      exact settled
  | restart => exact start tallied.notes

theorem isFinished_iff (consistent : s.Consistent count) :
    s.isFinished = true ↔ s.failed = true ∨ ∀ i < s.judged.size, s.isJudged i = true := by
  unfold isFinished
  rw [Bool.or_eq_true, decide_eq_true_eq, consistent.settled, le_lead_iff]

theorem cursor_le (consistent : s.Consistent count) {i : Nat} (fresh : s.isJudged i = false) :
    s.cursor ≤ i := by
  rw [consistent.settled]
  refine Nat.le_of_not_lt ?_
  intro behind
  rw [isJudged_of_lt_lead behind] at fresh
  cases fresh

/-- Looking back reaches no target, however far it goes. -/
theorem targets_window (consistent : s.Consistent count) (lane : Lane) (time : Float) {first : Nat}
    (back : first ≤ s.cursor) :
    s.targets lane time (s.window first) = s.targets lane time (s.window s.cursor) := by
  have inside := consistent.tallied.aligned.cursor_le
  have split : s.window first =
      ((s.notes.drop first).take (s.cursor - first)).zipIdx first ++ s.window s.cursor := by
    have lengths : s.cursor + lookAhead - first = s.cursor - first + lookAhead := by omega
    have place : first + (s.cursor - first) = s.cursor := by omega
    have behind : ((s.notes.drop first).take (s.cursor - first)).length = s.cursor - first := by
      rw [List.length_take, List.length_drop]
      omega
    unfold window
    rw [lengths, List.take_add, List.zipIdx_append, behind, List.drop_drop, place,
      Nat.add_sub_cancel_left]
  have empty : s.targets lane time
      (((s.notes.drop first).take (s.cursor - first)).zipIdx first) = [] := by
    refine List.eq_nil_iff_forall_not_mem.mpr ?_
    intro target given
    obtain ⟨note, near, fresh, -⟩ := mem_targets.mp given
    have behind := List.snd_lt_add_of_mem_zipIdx near
    have ahead := consistent.cursor_le fresh
    rw [List.length_take] at behind
    dsimp only at behind
    omega
  rw [split]
  unfold targets at empty ⊢
  rw [List.filterMap_append, empty, List.nil_append]

end Consistent

theorem modify_length (chart : Chart) (modifier : LaneModifier) :
    (chart.modify modifier).notes.length = chart.notes.length := by
  unfold Chart.modify
  split
  · rfl
  · simp

/-- Whatever calls a session gets, its books are in order: one flag for each note, the cursor at the
first note without a judgment, as many judgments counted as flags set, the end reached exactly with
a failure or the last judgment, no place out of range at any moment of a call, and no judgment on a
note behind the cursor, as far as a press may look back. -/
theorem bookkeeping {chart : Chart} {config : PlayConfig} {s₀ : Session}
    (few : chart.notes.length < 2 ^ 31) (accepted : Session.new chart config = .ok s₀)
    (calls : List Call) :
    let s := (s₀.run calls).2
    (s.notes.length = chart.notes.length ∧ s.judged.size = chart.notes.length) ∧
    (s.cursor ≤ s.notes.length ∧ (∀ i < s.cursor, s.isJudged i = true) ∧
      s.isJudged s.cursor = false ∧ s.cursor = (s.judged.toList.takeWhile id).length) ∧
    (∀ call, call ≠ .restart →
      (∀ i, s.isJudged i = true → (s.step call).2.isJudged i = true) ∧
      s.cursor ≤ (s.step call).2.cursor) ∧
    s.score.counts.total.toNat = s.judged.toList.count true ∧
    (s.isFinished = true ↔ s.failed = true ∨ ∀ i < s.judged.size, s.isJudged i = true) ∧
    (∀ events m, Moves s events m → ∀ first note index, (note, index) ∈ m.window first →
      index < m.judged.size ∧ m.notes[index]? = some note) ∧
    (∀ call event index, .judge event ∈ (s.step call).1 → event.index? = some index →
      s.cursor ≤ index ∧ index < s.judged.size ∧ s.isJudged index = false) ∧
    (∀ lane time first, first ≤ s.cursor →
      s.targets lane time (s.window first) = s.targets lane time (s.window s.cursor)) := by
  intro s
  obtain ⟨-, rfl⟩ := new_start accepted
  have consistent : s.Consistent chart.notes.length :=
    run_preserves (P := fun s => s.Consistent chart.notes.length)
      (fun s call before => Consistent.step few before call) _ calls
      (Consistent.start (modify_length chart config.modifier))
  have tallied := consistent.tallied
  refine ⟨⟨tallied.notes, tallied.flags⟩, ?_, ?_, tallied.total, consistent.isFinished_iff, ?_, ?_,
    ?_⟩
  · refine ⟨tallied.aligned.cursor_le, le_lead_iff.mp consistent.settled.le, ?_,
      consistent.settled⟩
    rw [consistent.settled]
    exact s.isJudged_lead
  · exact fun call playing => tallied.aligned.moves_grow (step_moves playing)
  · intro events m moves first note index near
    exact ⟨(tallied.moves few moves).inside_of_window near, (mem_window.mp near).2.2⟩
  · intro call event index given about
    have playing : call ≠ .restart := by
      rintro rfl
      cases given
    obtain ⟨inside, fresh, -⟩ := 
      tallied.aligned.moves_judged_index (step_moves playing) given about
    exact ⟨consistent.cursor_le fresh, inside, fresh⟩
  · exact fun lane time first back => consistent.targets_window lane time back

theorem bookkeeping_of_two_hits :
    let chart := { Chart.empty with
      notes := [⟨1000.0, 0x11, ⟨.p1, .key 1⟩, ⟨1⟩⟩, ⟨1020.0, 0x12, ⟨.p1, .key 2⟩, ⟨2⟩⟩]
      noteCount := 2 }
    let first := [Call.advance 900.0, .press ⟨.p1, .key 2⟩ 1010.0]
    let both := first ++ [.press ⟨.p1, .key 1⟩ 1030.0]
    chart.notes.length < 2 ^ 31 ∧ ∃ s₀, Session.new chart .standard = .ok s₀ ∧
      let s := (s₀.run first).2
      let t := (s₀.run both).2
      s.judged.toList = [false, true] ∧ s.cursor = 0 ∧ s.score.counts.total.toNat = 1 ∧
        t.judged.toList = [true, true] ∧ t.cursor = 2 ∧ t.score.counts.total.toNat = 2 ∧
        t.isFinished = true := by
  intro chart first both
  have few : chart.notes.length < 2 ^ 31 := by decide
  obtain ⟨s₀, accepted⟩ : ∃ s₀, Session.new chart .standard = .ok s₀ := ⟨_, rfl⟩
  obtain ⟨-, ⟨-, -, -, cursor⟩, -, total, -⟩ := bookkeeping few accepted first
  obtain ⟨-, ⟨-, -, -, cursor'⟩, -, total', finished, -⟩ := bookkeeping few accepted both
  have start := (new_start accepted).2
  have flags : (s₀.run first).2.judged.toList = [false, true] := by
    rw [start]
    decide +kernel
  have flags' : (s₀.run both).2.judged = #[true, true] := by
    rw [start]
    decide +kernel
  rw [flags] at cursor total
  rw [flags'] at cursor' total' finished
  refine ⟨few, s₀, accepted, flags, cursor, total, congrArg Array.toList flags', cursor', total', ?_⟩
  refine finished.mpr (Or.inr ?_)
  rw [start]
  decide +kernel

end Session
end NoteChart
