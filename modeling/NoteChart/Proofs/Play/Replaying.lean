import NoteChart.Play.Replay
import NoteChart.Proofs.Play.Survival
import NoteChart.Proofs.Play.Tally
import NoteChart.Proofs.Play.Ticking

/-!
Replays. A replay is a run of a session, made of the presses of a log, of one move of the clock for
each note that is left, and of a last move to the end of the chart. A move of the clock judges what
is due among the notes in sight, and nothing else; so the notes are all judged, unless the play
fails, if each is due at the time at which it is to be missed, or if there are few of them and each
is due at the end.
-/
namespace NoteChart

open Binary64

namespace Session

variable {s t : Session}

theorem makePresses_run (s : Session) (inputs : List InputRecord) :
    ∃ calls, .restart ∉ calls ∧ s.makePresses inputs = s.run calls := by
  induction inputs generalizing s with
  | nil => exact ⟨[], List.not_mem_nil, rfl⟩
  | cons input rest ih =>
    unfold makePresses
    dsimp only
    split
    · exact ⟨[.advance input.time, .press input.lane input.time], by simp, by simp [run, step]⟩
    · obtain ⟨calls, attempt, same⟩ := ih ((s.advance input.time).2.press input.lane input.time).2
      refine ⟨.advance input.time :: .press input.lane input.time :: calls, by simpa using attempt,
        ?_⟩
      simp [same, run, step]

theorem drain_run (notes : List Note) (s : Session) :
    ∃ calls, .restart ∉ calls ∧ drain notes s = s.run calls := by
  fun_induction drain notes s with
  | case1 s finished => exact ⟨[], List.not_mem_nil, rfl⟩
  | case2 s playing missing => exact ⟨[], List.not_mem_nil, rfl⟩
  | case3 s playing note found events advanced step moved later final rest ih =>
    obtain ⟨calls, attempt, same⟩ := ih
    refine ⟨.advance (s.missTime note) :: calls, by simpa using attempt, ?_⟩
    simp [run, Session.step, step, ← same, rest]
  | case4 s playing note found events advanced step still =>
    refine ⟨[.advance (s.missTime note)], by simp, ?_⟩
    simp [run, Session.step, step]

structure Counted (s : Session) : Prop where
  aligned : s.Aligned
  total : s.score.counts.total = .ofNat (s.judged.toList.count true)
  clock : IsNumber s.clock

namespace Counted

variable {index : Nat}

theorem judgeNote (counted : s.Counted) (inside : index < s.judged.size)
    (fresh : s.isJudged index = false) (lane : Lane) (judgment : Judgment) (diff : Float) :
    (s.judgeNote index lane judgment diff).2.Counted := by
  refine ⟨counted.aligned.judgeNote inside lane judgment diff, ?_, by simpa using counted.clock⟩
  rw [judgeNote_flags inside fresh, judgeNote_counts, JudgeCounts.total_increment, counted.total,
    UInt32.ofNat_add]
  rfl

theorem move (counted : s.Counted) {events : List PlayEvent} (move : Move s events t) :
    t.Counted := by
  have aligned := counted.aligned.move move
  cases move with
  | tick time playing => exact ⟨aligned, counted.total, isNumber_larger counted.clock time⟩
  | timed playing near fresh due =>
    exact counted.judgeNote (counted.aligned.inside_of_window near) fresh _ _ _
  | hit playing manual found =>
    obtain ⟨inside, fresh⟩ := counted.aligned.inside_of_reach (hit?_mem found).1
    exact counted.judgeNote inside fresh _ _ _
  | early playing manual missed found =>
    refine ⟨aligned, ?_, by simpa using counted.clock⟩
    rw [apply_judged, apply_score, Score.record_counts, if_pos rfl]
    exact counted.total
  | skip => exact ⟨aligned, counted.total, counted.clock⟩

theorem start (setup : Setup) : setup.start.Counted := by
  refine ⟨.start setup, ?_, isNumber_negInfinity⟩
  simp [Setup.start, Score.zero, JudgeCounts.zero, JudgeCounts.total, List.count_replicate]

end Counted

/-- Between calls the cursor is at the first note without a judgment. The notes are in order. -/
structure Settled (s : Session) : Prop extends Counted s where
  cursor : s.cursor = s.judgedLead
  inOrder : InOrder s.notes.zipIdx
  finite : s.setup.config.inputOffset.isFinite = true

namespace Settled

theorem start {setup : Setup} (inOrder : InOrder setup.chart.notes.zipIdx)
    (finite : setup.config.inputOffset.isFinite = true) : setup.start.Settled := by
  refine ⟨.start setup, ?_, inOrder, finite⟩
  have none : ∀ n, (List.replicate n false).takeWhile id = [] := by
    intro n
    cases n <;> rfl
  simp [Setup.start, judgedLead, none]

theorem skip (counted : s.Counted) (inOrder : InOrder s.notes.zipIdx)
    (finite : s.setup.config.inputOffset.isFinite = true) : s.skipJudged.Settled :=
  ⟨counted.move (.skip s), skipJudged_cursor counted.aligned.passed, inOrder, finite⟩

theorem step (settled : s.Settled) {call : Call} (playing : call ≠ .restart) :
    (s.step call).2.Settled := by
  have later {events : List PlayEvent} {m : Session} (moves : Moves s events m) :
      m.skipJudged.Settled := by
    have counted := moves.preserves (fun _ _ _ before move => before.move move) settled.toCounted
    refine skip counted ?_ ?_
    · rw [notes, moves.same_setup]
      exact settled.inOrder
    · rw [moves.same_setup]
      exact settled.finite
  cases call with
  | advance time =>
    change (s.advance time).2.Settled
    rcases s.advance_cases time with same | ⟨events, m, moves, same⟩
    · rwa [same]
    · rw [same]
      exact later moves
  | press lane time =>
    change (s.press lane time).2.Settled
    rcases s.press_cases lane time with same | ⟨events, m, move, same⟩ | ⟨diff, move, same⟩
    · rwa [same]
    · rw [same]
      exact later (.single move)
    · rw [same]
      refine ⟨settled.toCounted.move move, ?_, ?_, ?_⟩
      · rw [apply_lead, apply_cursor]
        exact settled.cursor
      · rw [notes, apply_setup]
        exact settled.inOrder
      · rw [apply_setup]
        exact settled.finite
  | restart => exact absurd rfl playing

theorem run (settled : s.Settled) {calls : List Call} (attempt : .restart ∉ calls) :
    (s.run calls).2.Settled := by
  induction calls generalizing s with
  | nil => exact settled
  | cons call rest ih =>
    rw [List.mem_cons, not_or] at attempt
    exact ih (settled.step (Ne.symm attempt.1)) attempt.2

theorem advance_isJudged (settled : s.Settled) (playing : s.failed = false) {time : Float}
    (lasting : (s.advance time).2.failed = false) (i : Nat) :
    (s.advance time).2.isJudged i = true ↔ s.isJudged i = true ∨
      ∃ note, (note, i) ∈ s.window s.cursor ∧
        s.setup.isDue (larger s.clock time) note = true := by
  have inOrder := settled.aligned.window_inOrder settled.inOrder
  have swept := sweep_eq (larger s.clock time) inOrder (s.tick time).2 playing
  rw [advance_playing playing] at lasting ⊢
  change (sweep (larger s.clock time) (s.window s.cursor) (s.tick time).2).2.failed = false
    at lasting
  change (sweep (larger s.clock time) (s.window s.cursor) (s.tick time).2).2.isJudged i = true ↔ _
  rw [swept] at lasting ⊢
  have inside : ∀ entry ∈ (s.tick time).2.dueNotes (larger s.clock time) (s.window s.cursor),
      entry.2 < (s.tick time).2.judged.size := by
    intro entry due
    exact settled.aligned.inside_of_window (List.mem_of_mem_filter due)
  rw [bringAll_isJudged inside lasting]
  change s.isJudged i = true ∨ (∃ entry ∈ s.dueNotes _ _, entry.2 = i) ↔ _
  constructor
  · rintro (before | ⟨⟨note, _⟩, due, rfl⟩)
    · exact Or.inl before
    · obtain ⟨near, due⟩ := List.mem_filter.mp due
      exact Or.inr ⟨note, near, ((Bool.and_eq_true _ _).mp due).1⟩
  · rintro (before | ⟨note, near, due⟩)
    · exact Or.inl before
    · by_cases before : s.isJudged i = true
      · exact Or.inl before
      · exact Or.inr ⟨(note, i), List.mem_filter.mpr ⟨near, by simp [due, before]⟩, rfl⟩

theorem advance (settled : s.Settled) (time : Float) : (s.advance time).2.Settled := by
  have playing : Call.advance time ≠ .restart := nofun
  exact settled.step playing

theorem isFinished_iff (settled : s.Settled) :
    s.isFinished = true ↔ s.failed = true ∨ ∀ i < s.notes.length, s.isJudged i = true := by
  unfold isFinished
  rw [Bool.or_eq_true, decide_eq_true_eq, settled.cursor, le_lead_iff, settled.aligned.flags]

theorem advance_passes (settled : s.Settled) (playing : s.failed = false) {note : Note}
    (found : s.notes[s.cursor]? = some note) {time : Float} (number : IsNumber time)
    (due : s.setup.isDue time note = true) :
    (s.advance time).2.failed = true ∨ s.cursor < (s.advance time).2.cursor := by
  by_cases lasting : (s.advance time).2.failed = false
  · right
    have near : (note, s.cursor) ∈ s.window s.cursor :=
      mem_window.mpr ⟨Nat.le_refl _, by simp [lookAhead], found⟩
    have number' := settled.inOrder.numbers _ (List.mk_mem_zipIdx_iff_getElem?.mpr found)
    have due := Setup.isDue_mono settled.finite (le_larger_right settled.clock number)
      (Binary64.le_refl number') due
    have judged : ∀ i < s.cursor + 1, (s.advance time).2.isJudged i = true := by
      intro i below
      rw [settled.advance_isJudged playing lasting]
      rcases Nat.lt_succ_iff_lt_or_eq.mp below with before | rfl
      · exact Or.inl (le_lead_iff.mp settled.aligned.passed i before)
      · exact Or.inr ⟨note, near, due⟩
    rw [(settled.advance time).cursor]
    exact le_lead_iff.mpr judged
  · exact Or.inl (by simpa using lasting)

theorem drain_settled (settled : s.Settled) (notes : List Note) : (drain notes s).2.Settled := by
  obtain ⟨calls, attempt, same⟩ := drain_run notes s
  rw [same]
  exact settled.run attempt

/-- Each move passes the note at the cursor, so none of them is the last before the end. -/
theorem drain_finishes {setup : Setup} (settled : s.Settled) (same : s.setup = setup)
    (due : ∀ note ∈ setup.chart.notes, IsNumber (setup.start.missTime note) ∧
      setup.isDue (setup.start.missTime note) note = true) :
    (drain setup.chart.notes s).2.isFinished = true := by
  fun_induction drain setup.chart.notes s with
  | case1 s finished => exact finished
  | case2 s playing missing =>
    refine absurd ?_ playing
    have beyond := List.getElem?_eq_none_iff.mp missing
    rw [← same] at beyond
    have end_reached : s.judged.size ≤ s.cursor := settled.aligned.flags.trans_le beyond
    simp [isFinished, end_reached]
  | case3 s playing note found events advanced step moved later final rest ih =>
    have next : advanced = (s.advance (s.missTime note)).2 := by rw [step]
    rw [rest] at ih
    subst next
    exact ih (settled.advance _) ((s.advance_moves _).same_setup.trans same)
  | case4 s playing note found events advanced step still =>
    have next : advanced = (s.advance (s.missTime note)).2 := by rw [step]
    subst next same
    obtain ⟨number, due⟩ := due note (List.mem_of_getElem? found)
    have lasting : s.failed = false := by
      simp only [isFinished, Bool.or_eq_true, not_or] at playing
      simpa using playing.1
    rcases settled.advance_passes lasting found number due with ended | moved
    · exact (Bool.or_eq_true _ _).mpr (Or.inl ended)
    · exact absurd moved still

end Settled

theorem Move.of_failed {events : List PlayEvent} (move : Move s events t)
    (ended : s.failed = true) : events = [] ∧ t = s.skipJudged := by
  cases move with
  | skip => exact ⟨rfl, rfl⟩
  | tick time playing => simp [playing] at ended
  | timed playing near fresh due => simp [playing] at ended
  | hit playing manual found => simp [playing] at ended
  | early playing manual missed found => simp [playing] at ended

theorem Moves.of_failed {events : List PlayEvent} (moves : Moves s events t)
    (ended : s.failed = true) : events = [] ∧ t.failed = true := by
  induction moves with
  | none s => exact ⟨rfl, ended⟩
  | cons first rest ih =>
    obtain ⟨rfl, rfl⟩ := first.of_failed ended
    exact ih ended

theorem Moves.failed {events : List PlayEvent} (moves : Moves s events t)
    (ended : s.failed = true) : t.failed = true := (moves.of_failed ended).2

theorem Moves.playing {events : List PlayEvent} (moves : Moves s events t)
    (lasting : t.failed = false) : s.failed = false := by
  by_contra ended
  rw [moves.failed (by simpa using ended)] at lasting
  cases lasting

def ending (s : Session) : Session :=
  ((drain s.notes s).2.advance (drain s.notes s).2.setup.chart.duration).2

theorem drain_moves (notes : List Note) (s : Session) :
    Moves s (drain notes s).1 (drain notes s).2 := by
  obtain ⟨calls, attempt, same⟩ := drain_run notes s
  rw [same]
  exact run_moves s calls attempt

theorem ending_moves (s : Session) : ∃ events, Moves s events s.ending :=
  ⟨_, (s.drain_moves s.notes).append ((drain s.notes s).2.advance_moves _)⟩

theorem ending_setup (s : Session) : s.ending.setup = s.setup := by
  obtain ⟨events, moves⟩ := s.ending_moves
  exact moves.same_setup

/-- Each note is due when it is to be missed, or all are in sight and due at the end of the
chart. -/
def Reaches (s : Session) : Prop :=
  (∀ note ∈ s.notes, IsNumber (s.missTime note) ∧
    s.setup.isDue (s.missTime note) note = true) ∨
  s.notes.length ≤ lookAhead ∧ ∀ note ∈ s.notes, IsNumber s.setup.chart.duration ∧
    s.setup.isDue s.setup.chart.duration note = true

namespace Settled

theorem ending (settled : s.Settled) : s.ending.Settled :=
  (settled.drain_settled s.notes).advance _

theorem ending_judges (settled : s.Settled) (reaches : s.Reaches) :
    s.ending.failed = true ∨ ∀ i < s.notes.length, s.ending.isJudged i = true := by
  have drained := settled.drain_settled s.notes
  have setup : (drain s.notes s).2.setup = s.setup := (s.drain_moves s.notes).same_setup
  have notes : (drain s.notes s).2.notes = s.notes := congrArg (·.chart.notes) setup
  have last := (drain s.notes s).2.advance_moves (drain s.notes s).2.setup.chart.duration
  rcases reaches with due | ⟨few, due⟩
  · have finished := settled.drain_finishes rfl due
    rcases drained.isFinished_iff.mp finished with ended | all
    · exact Or.inl (last.failed ended)
    · right
      intro i below
      exact (drained.aligned.moves_grow last).1 i (all i (by rwa [notes]))
  · by_cases playing : (drain s.notes s).2.failed = false
    · by_cases lasting : s.ending.failed = false
      · right
        intro i below
        refine (drained.advance_isJudged playing lasting i).mpr ?_
        by_cases before : i < (drain s.notes s).2.cursor
        · exact Or.inl (le_lead_iff.mp drained.aligned.passed i before)
        · right
          have found : s.notes[i]? = some s.notes[i] := List.getElem?_eq_getElem below
          have inside := settled.inOrder.numbers _ (List.mk_mem_zipIdx_iff_getElem?.mpr found)
          refine ⟨s.notes[i], mem_window.mpr ⟨by omega, by omega, by rwa [notes]⟩, ?_⟩
          obtain ⟨number, due⟩ := due _ (List.getElem_mem below)
          rw [setup]
          exact Setup.isDue_mono settled.finite (le_larger_right drained.clock number)
            (Binary64.le_refl inside) due
      · exact Or.inl (by simpa using lasting)
    · exact Or.inl (last.failed (by simpa using playing))

theorem total_of_all (settled : s.Settled) (all : ∀ i < s.notes.length, s.isJudged i = true) :
    s.score.counts.total = .ofNat s.notes.length := by
  rw [← settled.aligned.flags] at all ⊢
  rw [settled.total, count_judged_iff.mpr all]

theorem total_ne (settled : s.Settled) (few : s.notes.length < UInt32.size) {i : Nat}
    (inside : i < s.notes.length) (fresh : s.isJudged i = false) :
    s.score.counts.total ≠ .ofNat s.notes.length := by
  intro same
  have bound : s.judged.toList.count true ≤ s.judged.size := List.count_le_length
  rw [← settled.aligned.flags] at few inside same
  rw [settled.total] at same
  have counts := congrArg UInt32.toNat same
  rw [UInt32.toNat_ofNat_of_lt' (bound.trans_lt few), UInt32.toNat_ofNat_of_lt' few] at counts
  rw [count_judged_iff.mp counts i inside] at fresh
  cases fresh

theorem advance_still (settled : s.Settled) (playing : s.failed = false) {note : Note}
    (found : s.notes[s.cursor]? = some note) {time : Float}
    (early : s.setup.isDue (larger s.clock time) note = false) : s.advance time = s.tick time := by
  have none : (s.tick time).2.dueNotes (larger s.clock time) (s.window s.cursor) = [] := by
    refine List.filter_eq_nil_iff.mpr ?_
    rintro ⟨later, i⟩ near due
    obtain ⟨after, -, found'⟩ := mem_window.mp near
    have now : larger s.clock time ≤ larger s.clock time :=
      Binary64.le_refl (isNumber_larger settled.clock time)
    have order := settled.inOrder.times_le found found' after
    have due' := Setup.isDue_mono settled.finite now order ((Bool.and_eq_true _ _).mp due).1
    rw [due'] at early
    cases early
  have inOrder := settled.aligned.window_inOrder settled.inOrder
  have swept := sweep_eq (larger s.clock time) inOrder (s.tick time).2 playing
  rw [none] at swept
  have there : (s.tick time).2.skipJudged.cursor = s.cursor := by
    rw [skipJudged_cursor (s := (s.tick time).2) settled.aligned.passed]
    exact settled.cursor.symm
  have still : (s.tick time).2.skipJudged = (s.tick time).2 := by
    change { (s.tick time).2 with cursor := (s.tick time).2.skipJudged.cursor } = _
    rw [there]
    rfl
  rw [advance_playing playing]
  change ((s.tick time).1 ++ (sweep (larger s.clock time) (s.window s.cursor) _).1,
    (sweep (larger s.clock time) (s.window s.cursor) _).2.skipJudged) = _
  rw [swept]
  change ((s.tick time).1 ++ [], (s.tick time).2.skipJudged) = _
  rw [still, List.append_nil]

theorem drain_still {notes : List Note} (playing : ¬s.isFinished = true) {note : Note}
    (found : notes[s.cursor]? = some note)
    (still : (s.advance (s.missTime note)).2.cursor = s.cursor) :
    drain notes s = s.advance (s.missTime note) := by
  unfold drain
  rw [if_neg playing]
  split
  · rename_i missing
    rw [found] at missing
    cases missing
  · rename_i other found'
    cases found.symm.trans found'
    cases step : s.advance (s.missTime note) with
    | mk events advanced =>
      rw [step] at still
      exact dif_neg (Nat.not_lt.mpr (Nat.le_of_eq still))

/-- If the clock does not get to the first note, it stops there, and the last move judges no note
out of sight. -/
theorem ending_stalls (settled : s.Settled) (playing : s.failed = false) {note : Note}
    (found : s.notes[s.cursor]? = some note)
    (early : s.setup.isDue (larger s.clock (s.missTime note)) note = false)
    (lasting : s.ending.failed = false) {i : Nat} (judged : s.ending.isJudged i = true) :
    s.isJudged i = true ∨ i < s.cursor + lookAhead := by
  have unfinished : ¬s.isFinished = true := by
    rw [settled.isFinished_iff, not_or]
    refine ⟨by simp [playing], ?_⟩
    intro all
    have judged := all s.cursor (List.getElem?_eq_some_iff.mp found).1
    rw [settled.cursor, isJudged_lead] at judged
    cases judged
  have still := settled.advance_still playing found early
  have drained : drain s.notes s = s.tick (s.missTime note) := by
    rw [drain_still unfinished found (by rw [still]; rfl), still]
  have ticked := settled.advance (s.missTime note)
  unfold Session.ending at judged lasting
  rw [drained] at judged lasting
  rw [still] at ticked
  rcases (ticked.advance_isJudged playing lasting i).mp judged with before | ⟨later, near, -⟩
  · exact Or.inl before
  · exact Or.inr (mem_window.mp near).2.1

end Settled

end Session

def Setup.ofChart (chart : Chart) (config : PlayConfig) : Setup :=
  { chart := chart.modify config.modifier, config, windows := config.windowsFor chart.rank }

theorem replay_eq (chart : Chart) {config : PlayConfig} (valid : config.validate = .ok ())
    (inputs : List InputRecord) :
    ∃ events, replay chart config inputs = .ok (events,
      ((Setup.ofChart chart config).start.makePresses (orderInputs inputs)).2.ending) := by
  unfold replay Session.new
  rw [valid]
  exact ⟨_, rfl⟩

theorem replay_run {chart : Chart} {config : PlayConfig} {s₀ : Session}
    (accepted : Session.new chart config = .ok s₀) (inputs : List InputRecord) :
    ∃ calls, .restart ∉ calls ∧
      replay chart config inputs = .ok (s₀.run (calls ++ [.advance s₀.setup.chart.duration])) := by
  obtain ⟨presses, attempt, pressed⟩ := s₀.makePresses_run (orderInputs inputs)
  obtain ⟨misses, attempt', drained⟩ :=
    Session.drain_run (s₀.run presses).2.notes (s₀.run presses).2
  have setup : ((s₀.run presses).2.run misses).2.setup = s₀.setup :=
    (Session.run_setup _ misses).trans (s₀.run_setup presses)
  refine ⟨presses ++ misses, ?_, ?_⟩
  · simp [attempt, attempt']
  · unfold replay
    rw [accepted]
    simp [pressed, drained, setup, Session.run_append, Session.run, Session.step]

theorem start_settled {chart : Chart} {config : PlayConfig} (valid : config.validate = .ok ())
    (numbers : ∀ time ∈ chart.notes.map Note.time, IsNumber time)
    (sorted : (chart.notes.map Note.time).Pairwise (· ≤ ·)) :
    (Setup.ofChart chart config).start.Settled := by
  have times := Session.modify_times chart config.modifier
  rw [← times] at numbers sorted
  exact .start (.of_notes numbers sorted 0) (Session.offset_isFinite valid)

theorem replay_settled {chart : Chart} {config : PlayConfig} (valid : config.validate = .ok ())
    (numbers : ∀ time ∈ chart.notes.map Note.time, IsNumber time)
    (sorted : (chart.notes.map Note.time).Pairwise (· ≤ ·)) (inputs : List InputRecord) :
    ∃ events pressed, replay chart config inputs = .ok (events, pressed.ending) ∧
      pressed.Settled ∧
      ∃ earlier, Session.Moves (Setup.ofChart chart config).start earlier pressed := by
  obtain ⟨events, played⟩ := replay_eq chart valid inputs
  obtain ⟨calls, attempt, same⟩ :=
    (Setup.ofChart chart config).start.makePresses_run (orderInputs inputs)
  rw [same] at played
  exact ⟨events, _, played, (start_settled valid numbers sorted).run attempt, _,
    Session.run_moves _ calls attempt⟩

theorem replay_stalls {chart : Chart} {config : PlayConfig} (valid : config.validate = .ok ())
    (numbers : ∀ time ∈ chart.notes.map Note.time, IsNumber time)
    (sorted : (chart.notes.map Note.time).Pairwise (· ≤ ·)) {note : Note}
    (first : (Setup.ofChart chart config).chart.notes[0]? = some note)
    (early : (Setup.ofChart chart config).isDue
      (larger negInfinity ((Setup.ofChart chart config).start.missTime note)) note = false)
    {kind : GaugeKind} (allowed : kind ∈ config.kinds) (light : kind.isSurvival = false)
    (many : lookAhead < chart.notes.length) (few : chart.notes.length < UInt32.size) :
    ∃ events final, replay chart config [] = .ok (events, final) ∧
      (∃ others, Session.Moves (Setup.ofChart chart config).start others final) ∧
      final.failed = false ∧ final.isJudged lookAhead = false ∧
      final.score.counts.total ≠ .ofNat chart.notes.length := by
  obtain ⟨events, played⟩ := replay_eq chart valid []
  have none : orderInputs [] = [] := by simp [orderInputs]
  rw [none, Session.makePresses] at played
  have settled := start_settled valid numbers sorted
  obtain ⟨others, moves⟩ := (Setup.ofChart chart config).start.ending_moves
  have setup := moves.same_setup
  have surviving : (Setup.ofChart chart config).start.Surviving :=
    .start (PlayConfig.floor_le_of_valid valid)
  have lasting : (Setup.ofChart chart config).start.ending.failed = false := by
    refine (surviving.moves moves).lasts ?_ light
    rw [setup]
    exact allowed
  have fresh : (Setup.ofChart chart config).start.ending.isJudged lookAhead = false := by
    by_contra judged
    rcases settled.ending_stalls rfl first early lasting (by simpa using judged) with before | near
    · rw [Session.start_isJudged] at before
      cases before
    · exact absurd near (by simp [Setup.start])
  have length : (Setup.ofChart chart config).start.ending.notes.length = chart.notes.length := by
    rw [Session.notes, setup]
    exact Session.modify_length chart config.modifier
  refine ⟨events, _, played, ⟨others, moves⟩, lasting, fresh, ?_⟩
  rw [← length]
  rw [← length] at many few
  exact settled.ending.total_ne few many fresh

end NoteChart
