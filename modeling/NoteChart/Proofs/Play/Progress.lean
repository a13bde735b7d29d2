import NoteChart.Proofs.Play.Replaying

/-!
Progress. Once the clock is past the last window of every note, a move of the clock judges all notes
in sight, in whatever order they come, or the play fails on the way. So the cursor goes on by as many
notes as are considered at a time, and moves enough end the play.
-/
namespace NoteChart

open Binary64

namespace Setup

variable {setup : Setup} {time : Float} {note : Note}

/-- The note has come, and its last window has closed. -/
def IsPast (setup : Setup) (time : Float) (note : Note) : Prop :=
  note.time ≤ time ∧ setup.windows.bad < time - setup.config.inputOffset - note.time

theorem IsPast.isDue (past : setup.IsPast time note) : setup.isDue time note = true := by
  obtain ⟨come, closed⟩ := past
  obtain ⟨-, number⟩ := isNumber_of_le come
  rw [isDue_iff]
  constructor
  · have later : time ≤ time + futureTolerance :=
      Binary64.le_add_of_finite number (by decide) (by decide)
    exact Binary64.not_lt_of_le (Binary64.le_trans come later)
  · split_ifs
    · exact come
    · exact closed

end Setup

namespace Session

variable {s : Session}

theorem sweep_judges {now : Float} {entries : List (Note × Nat)}
    (inside : ∀ entry ∈ entries, entry.2 < s.judged.size)
    (due : ∀ entry ∈ entries, s.setup.isDue now entry.1 = true) :
    (sweep now entries s).2.failed = true ∨
      ∀ i, s.isJudged i = true ∨ i ∈ entries.map Prod.snd →
        (sweep now entries s).2.isJudged i = true := by
  induction entries generalizing s with
  | nil => exact Or.inr (by simp [sweep])
  | cons entry rest ih =>
    obtain ⟨bound, inside⟩ := List.forall_mem_cons.mp inside
    obtain ⟨first, due⟩ := List.forall_mem_cons.mp due
    have near := (Setup.isDue_iff.mp first).1
    by_cases judged : s.isJudged entry.2 = true
    · rw [sweep_pass near (Or.inl judged)]
      apply (ih inside due).imp_right
      intro all i given
      apply all i
      rw [List.map_cons, List.mem_cons] at given
      rcases given with before | rfl | later
      · exact Or.inl before
      · exact Or.inl judged
      · exact Or.inr later
    · rw [sweep_due near (by simpa using judged) first]
      split_ifs with ended
      · exact Or.inl ended
      · have size : (s.bring now entry).2.judged.size = s.judged.size := by simp [bring]
        have setup : (s.bring now entry).2.setup = s.setup := by simp [bring]
        apply (ih (by rwa [size]) (by rwa [setup])).imp_right
        intro all i given
        apply all i
        rw [List.map_cons, List.mem_cons] at given
        unfold bring
        rw [Aligned.judgeNote_isJudged bound]
        rcases given with before | same | later
        · exact Or.inl (Or.inr before)
        · exact Or.inl (Or.inl same)
        · exact Or.inr later

theorem Aligned.advance_progress (aligned : s.Aligned) (number : IsNumber s.clock)
    (finite : s.setup.config.inputOffset.isFinite = true) {time : Float}
    (past : ∀ note ∈ s.notes, s.setup.IsPast time note) :
    (s.advance time).2.failed = true ∨
      min (s.cursor + lookAhead) s.notes.length ≤ (s.advance time).2.cursor := by
  by_cases playing : s.failed = true
  · rw [advance_failed playing]
    exact Or.inl playing
  have playing : s.failed = false := by simpa using playing
  have due : ∀ entry ∈ s.window s.cursor,
      s.setup.isDue (larger s.clock time) entry.1 = true := by
    rintro ⟨note, index⟩ near
    have given := past note (List.mem_of_getElem? (mem_window.mp near).2.2)
    obtain ⟨number', number''⟩ := isNumber_of_le given.1
    exact Setup.isDue_mono finite (le_larger_right number number'') (Binary64.le_refl number')
      given.isDue
  have inside : ∀ entry ∈ s.window s.cursor, entry.2 < s.judged.size :=
    fun entry near => aligned.inside_of_window near
  have ticked : (s.tick time).2.Aligned := aligned.move (.tick time playing)
  have swept := sweep_moves ((s.tick time).2.window (s.tick time).2.cursor) (s.tick time).2 playing
    fun _ near => near
  have passed := (ticked.moves swept).passed
  rw [advance_playing playing]
  apply (sweep_judges (s := (s.tick time).2) inside due).imp_right
  intro judges
  change _ ≤ (sweep _ _ (s.tick time).2).2.skipJudged.cursor
  rw [skipJudged_cursor passed, le_lead_iff]
  intro i below
  apply judges i
  by_cases behind : i < s.cursor
  · exact Or.inl (le_lead_iff.mp aligned.passed i behind)
  · have short : i < s.notes.length := lt_of_lt_of_le below (Nat.min_le_right _ _)
    have near : (s.notes[i], i) ∈ s.window s.cursor :=
      mem_window.mpr ⟨by omega, by omega, List.getElem?_eq_getElem short⟩
    exact Or.inr (List.mem_map_of_mem near)

theorem Aligned.advances_progress (aligned : s.Aligned) (number : IsNumber s.clock)
    (finite : s.setup.config.inputOffset.isFinite = true) {time : Float}
    (past : ∀ note ∈ s.notes, s.setup.IsPast time note) (k : Nat) :
    let t := (s.run (List.replicate k (.advance time))).2
    t.failed = true ∨ min (s.cursor + k * lookAhead) s.notes.length ≤ t.cursor := by
  induction k generalizing s with
  | zero => exact Or.inr (by simp [Session.run])
  | succ k ih =>
    have moves := s.advance_moves time
    have setup := moves.same_setup
    have notes : (s.advance time).2.notes = s.notes := congrArg (·.chart.notes) setup
    have clock : IsNumber (s.advance time).2.clock := s.run_clock [.advance time] number
    change ((s.advance time).2.run (List.replicate k (.advance time))).2.failed = true ∨
      _ ≤ ((s.advance time).2.run (List.replicate k (.advance time))).2.cursor
    rcases aligned.advance_progress number finite past with ended | further
    · apply Or.inl
      exact (run_moves (s.advance time).2 (List.replicate k (.advance time))
        (by simp [List.mem_replicate])).failed ended
    · apply (ih (aligned.moves moves) clock (by rwa [setup]) (by rwa [notes, setup])).imp_right
      intro later
      rw [notes] at later
      rw [Nat.add_mul, Nat.one_mul]
      omega

/-- In every state that calls can lead to, a move of the clock past the last windows of all notes
either finds the play failing or takes the cursor as many notes further as are considered at a time.
So that many times as it takes to cover the notes that are left, it ends the play. -/
theorem advance_past_progress {chart : Chart} {config : PlayConfig} {s₀ : Session}
    (accepted : Session.new chart config = .ok s₀) (calls : List Call) {time : Float}
    (past : ∀ note ∈ chart.notes, note.time ≤ time ∧
      (config.windowsFor chart.rank).bad < time - config.inputOffset - note.time) :
    let s := (s₀.run calls).2
    ((s.advance time).2.failed = true ∨
      min (s.cursor + lookAhead) s.notes.length ≤ (s.advance time).2.cursor) ∧
    ∀ k, s.notes.length - s.cursor ≤ k * lookAhead →
      (s.run (List.replicate k (.advance time))).2.isFinished = true := by
  intro s
  obtain ⟨valid, rfl⟩ := new_start accepted
  have aligned : s.Aligned := (Aligned.start _).run calls
  have number : IsNumber s.clock := run_clock _ calls isNumber_negInfinity
  have same : s.setup = _ := run_setup _ calls
  have finite : s.setup.config.inputOffset.isFinite = true := by
    rw [same]
    exact offset_isFinite valid
  have past : ∀ note ∈ s.notes, s.setup.IsPast time note := by
    intro note given
    have times := List.mem_map_of_mem (f := Note.time) given
    rw [notes, same, Setup.start, modify_times] at times
    obtain ⟨other, given', equal⟩ := List.mem_map.mp times
    rw [Setup.IsPast, same, ← equal]
    exact past other given'
  refine ⟨aligned.advance_progress number finite past, ?_⟩
  intro k enough
  have reached := aligned.cursor_le
  have moved := run_moves s (List.replicate k (.advance time)) (by simp [List.mem_replicate])
  have size : (s.run (List.replicate k (.advance time))).2.judged.size = s.notes.length := by
    rw [(aligned.moves moved).flags, notes, moved.same_setup]
    rfl
  unfold isFinished
  rw [Bool.or_eq_true, decide_eq_true_eq, size]
  apply (aligned.advances_progress number finite past k).imp_right
  intro further
  omega

theorem advance_past_progress_of_two_notes :
    let chart := { Chart.empty with
      notes := [⟨2000.0, 0x11, ⟨.p1, .key 1⟩, ⟨1⟩⟩, ⟨1000.0, 0x12, ⟨.p1, .key 2⟩, ⟨2⟩⟩]
      noteCount := 2 }
    ∃ s₀, Session.new chart .standard = .ok s₀ ∧
      (∀ note ∈ chart.notes, note.time ≤ 3000.0 ∧
        (PlayConfig.standard.windowsFor chart.rank).bad <
          3000.0 - PlayConfig.standard.inputOffset - note.time) ∧
      let s := (s₀.run [.advance 900.0, .press ⟨.p1, .key 2⟩ 1010.0]).2
      s.cursor = 0 ∧ s.isJudged 1 = true ∧
        (s.run (List.replicate 1 (.advance 3000.0))).2.isFinished = true := by
  intro chart
  obtain ⟨s₀, accepted⟩ : ∃ s₀, Session.new chart .standard = .ok s₀ := ⟨_, rfl⟩
  have past : ∀ note ∈ chart.notes, note.time ≤ 3000.0 ∧
      (PlayConfig.standard.windowsFor chart.rank).bad <
        3000.0 - PlayConfig.standard.inputOffset - note.time := by decide +kernel
  have progress := advance_past_progress accepted
    [.advance 900.0, .press ⟨.p1, .key 2⟩ 1010.0] past
  have start := (new_start accepted).2
  refine ⟨s₀, accepted, past, ?_, ?_, progress.2 1 ?_⟩
  · rw [start]
    decide +kernel
  · rw [start]
    decide +kernel
  · rw [start]
    decide +kernel

end Session
end NoteChart
