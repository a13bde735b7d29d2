import NoteChart.Proofs.Interleaving
import NoteChart.Proofs.Play.Replaying

/-!
The order of a log. A replay sorts its log, and sorting is stable, so of the order of the entries
only that among entries at one time counts; entries without a time count for nothing. Whatever the
log and the chart, the replay comes to an end: each move past a note takes the cursor further, or is
the last.
-/
namespace NoteChart

namespace InputRecord

variable {input : InputRecord} {time : Float}

def key (input : InputRecord) : UInt64 := Binary64.totalKey input.time

/-- The input has the given time: neither is before the other in the total order. -/
def isAt (input : InputRecord) (time : Float) : Bool :=
  Binary64.totalLE input.time time && Binary64.totalLE time input.time

theorem isAt_iff : input.isAt time = true ↔ input.key = Binary64.totalKey time := by
  unfold isAt Binary64.totalLE
  rw [Bool.and_eq_true, decide_eq_true_eq, decide_eq_true_eq]
  exact UInt64.le_antisymm_iff.symm

end InputRecord

theorem orderInputs_sorted (inputs : List InputRecord) :
    (orderInputs inputs).Pairwise (·.key ≤ ·.key) :=
  mergeSort_sorted InputRecord.key _

theorem orderInputs_filter (inputs : List InputRecord) (k : UInt64) :
    (orderInputs inputs).filter (·.key = k) =
      (inputs.filter (·.key = k)).filter (·.time.isFinite) := by
  have kept := filter_mergeSort InputRecord.key (inputs.filter fun input => input.time.isFinite) k
  unfold orderInputs
  rw [List.filter_comm]
  exact kept

theorem orderInputs_congr {inputs others : List InputRecord}
    (same : ∀ time : Float, time.isFinite = true →
      inputs.filter (·.isAt time) = others.filter (·.isAt time)) :
    orderInputs inputs = orderInputs others := by
  apply eq_of_sorted_of_filter InputRecord.key (orderInputs_sorted inputs)
    (orderInputs_sorted others)
  intro k
  rw [orderInputs_filter, orderInputs_filter]
  by_cases given : ∃ time : Float, time.isFinite = true ∧ Binary64.totalKey time = k
  · obtain ⟨time, finite, rfl⟩ := given
    have at_time : ∀ input : InputRecord,
        decide (input.key = Binary64.totalKey time) = input.isAt time := by
      intro input
      rw [Bool.eq_iff_iff, decide_eq_true_eq]
      exact InputRecord.isAt_iff.symm
    simp only [at_time, same time finite]
  · have none (log : List InputRecord) :
        (log.filter (·.key = k)).filter (·.time.isFinite) = [] := by
      apply List.filter_eq_nil_iff.mpr
      intro input found finite
      exact given ⟨input.time, finite, of_decide_eq_true (List.mem_filter.mp found).2⟩
    rw [none, none]

namespace Session

variable {s : Session}

/-- How a play is moved past its notes, with the number of moves: while it is not over, the clock
goes past the note at the cursor. It ends early if there is no such note, or if after a move the
cursor is where it was and the play is not over. -/
inductive Drains : Session → Nat → List PlayEvent → Session → Prop where
  | finished {s : Session} (ended : s.isFinished = true) : Drains s 0 [] s
  | passed {s : Session} (playing : s.isFinished = false)
      (missing : s.notes[s.cursor]? = none) : Drains s 0 [] s
  | stuck {s : Session} {note : Note} (playing : s.isFinished = false)
      (found : s.notes[s.cursor]? = some note)
      (still : (s.advance (s.missTime note)).2.cursor = s.cursor)
      (unfinished : (s.advance (s.missTime note)).2.isFinished = false) :
      Drains s 1 (s.advance (s.missTime note)).1 (s.advance (s.missTime note)).2
  | onward {s t : Session} {note : Note} {moves : Nat} {later : List PlayEvent}
      (playing : s.isFinished = false) (found : s.notes[s.cursor]? = some note)
      (further : (s.advance (s.missTime note)).2.cursor ≠ s.cursor ∨
        (s.advance (s.missTime note)).2.isFinished = true)
      (rest : Drains (s.advance (s.missTime note)).2 moves later t) :
      Drains s (moves + 1) ((s.advance (s.missTime note)).1 ++ later) t

theorem Aligned.drains (aligned : s.Aligned) {notes : List Note} (same : notes = s.notes) :
    ∃ moves ≤ s.notes.length - s.cursor, s.Drains moves (drain notes s).1 (drain notes s).2 := by
  fun_induction drain notes s with
  | case1 s ended => exact ⟨0, Nat.zero_le _, .finished ended⟩
  | case2 s playing missing =>
    rw [same] at missing
    exact ⟨0, Nat.zero_le _, .passed (by simpa using playing) missing⟩
  | case3 s playing note found events advanced step moved later final rest ih =>
    obtain rfl : advanced = (s.advance (s.missTime note)).2 := by rw [step]
    obtain rfl : events = (s.advance (s.missTime note)).1 := by rw [step]
    have onto := s.advance_moves (s.missTime note)
    have kept : notes = (s.advance (s.missTime note)).2.notes :=
      same.trans (congrArg (·.chart.notes) onto.same_setup).symm
    obtain ⟨moves, few, drains⟩ := ih (aligned.moves onto) kept
    rw [rest] at drains
    rw [← kept] at few
    rw [same] at found few
    have inside := (List.getElem?_eq_some_iff.mp found).1
    exact ⟨moves + 1, by omega,
      .onward (by simpa using playing) found (Or.inl moved.ne') drains⟩
  | case4 s playing note found events advanced step still =>
    obtain rfl : advanced = (s.advance (s.missTime note)).2 := by rw [step]
    obtain rfl : events = (s.advance (s.missTime note)).1 := by rw [step]
    have forward := (aligned.moves_grow (s.advance_moves (s.missTime note))).2
    rw [same] at found
    have inside := (List.getElem?_eq_some_iff.mp found).1
    have playing : s.isFinished = false := by simpa using playing
    refine ⟨1, by omega, ?_⟩
    by_cases ended : (s.advance (s.missTime note)).2.isFinished = true
    · have last := Drains.onward playing found (Or.inr ended) (.finished ended)
      rwa [List.append_nil] at last
    · exact .stuck playing found (by omega) (by simpa using ended)

end Session

/-- What a replay makes of a log does not depend on the order of its entries, if those at one time
keep theirs, and entries whose time is not finite make no difference. After the presses the replay
moves past the notes that are left, with no more moves than there are such notes, and then to the
end of the chart. -/
theorem replay_log_order (chart : Chart) (config : PlayConfig) (inputs : List InputRecord) :
    (∀ others : List InputRecord, (∀ time : Float, time.isFinite = true →
        inputs.filter (·.isAt time) = others.filter (·.isAt time)) →
      replay chart config inputs = replay chart config others) ∧
    replay chart config (inputs.filter (·.time.isFinite)) = replay chart config inputs ∧
    ∀ s₀, Session.new chart config = .ok s₀ →
      let pressed := s₀.makePresses (orderInputs inputs)
      ∃ moves misses drained, pressed.2.Drains moves misses drained ∧
        moves ≤ pressed.2.notes.length - pressed.2.cursor ∧
        replay chart config inputs =
          .ok (pressed.1 ++ misses ++ (drained.advance drained.setup.chart.duration).1,
            (drained.advance drained.setup.chart.duration).2) := by
  have ordered {log log' : List InputRecord} (same : orderInputs log = orderInputs log') :
      replay chart config log = replay chart config log' := by
    unfold replay
    rw [same]
  refine ⟨fun others same => ordered (orderInputs_congr same), ordered ?_, ?_⟩
  · unfold orderInputs
    rw [List.filter_filter]
    simp only [Bool.and_self]
  · intro s₀ accepted pressed
    have aligned : (s₀.makePresses (orderInputs inputs)).2.Aligned := by
      obtain ⟨calls, -, same⟩ := s₀.makePresses_run (orderInputs inputs)
      obtain ⟨-, rfl⟩ := Session.new_start accepted
      rw [same]
      exact (Session.Aligned.start _).run calls
    obtain ⟨moves, few, drains⟩ := aligned.drains rfl
    refine ⟨moves, _, _, drains, few, ?_⟩
    unfold replay
    rw [accepted]

theorem replay_log_order_of_two_presses :
    let chart := { Chart.empty with
      notes := [⟨1000.0, 0x11, ⟨.p1, .key 1⟩, ⟨1⟩⟩, ⟨2000.0, 0x12, ⟨.p1, .key 2⟩, ⟨2⟩⟩]
      noteCount := 2 }
    let soon : InputRecord := ⟨1010.0, ⟨.p1, .key 1⟩⟩
    let late : InputRecord := ⟨2010.0, ⟨.p1, .key 2⟩⟩
    let never : InputRecord := ⟨Binary64.infinity, ⟨.p1, .key 1⟩⟩
    (∀ time : Float, time.isFinite = true →
      [late, soon].filter (·.isAt time) = [soon, late].filter (·.isAt time)) ∧
    replay chart .standard [late, never, soon] = replay chart .standard [soon, late] ∧
    ∃ s₀, Session.new chart .standard = .ok s₀ ∧
      ∃ moves misses drained, moves ≤ 2 ∧
        (s₀.makePresses (orderInputs [late, soon])).2.Drains moves misses drained := by
  intro chart soon late never
  obtain ⟨reordered, -, ends⟩ := replay_log_order chart .standard [late, soon]
  have dropped := (replay_log_order chart .standard [late, never, soon]).2.1
  have timed : [late, never, soon].filter (·.time.isFinite) = [late, soon] := by decide +kernel
  rw [timed] at dropped
  have same : ∀ time : Float, time.isFinite = true →
      [late, soon].filter (·.isAt time) = [soon, late].filter (·.isAt time) := by
    intro time finite
    have apart : ¬(late.isAt time = true ∧ soon.isAt time = true) := by
      rintro ⟨second, first⟩
      have keys := (InputRecord.isAt_iff.mp second).trans (InputRecord.isAt_iff.mp first).symm
      revert keys
      decide +kernel
    by_cases second : late.isAt time = true <;> by_cases first : soon.isAt time = true
    · exact absurd ⟨second, first⟩ apart
    · simp [second, first]
    · simp [second, first]
    · simp [second, first]
  obtain ⟨s₀, accepted⟩ : ∃ s₀, Session.new chart .standard = .ok s₀ := ⟨_, rfl⟩
  obtain ⟨moves, misses, drained, drains, few, -⟩ := ends s₀ accepted
  refine ⟨same, dropped.symm.trans (reordered [soon, late] same), s₀, accepted, moves, misses,
    drained, ?_, drains⟩
  obtain ⟨calls, -, run⟩ := s₀.makePresses_run (orderInputs [late, soon])
  rw [run, Session.notes, Session.run_setup, (Session.new_start accepted).2] at few
  exact few.trans (Nat.sub_le _ _)

end NoteChart
