import NoteChart.Play.Session
import Mathlib.Data.List.Basic
import Mathlib.Tactic.SplitIfs

/-!
What a session does, in single moves. A call to a session is a chain of moves: the clock ticks, one
note is judged by the clock, a press hits one note or is too early for it, the cursor passes judged
notes. What every move keeps, every run keeps.
-/
namespace NoteChart

namespace PlayEvent

def judge? : PlayEvent → Option JudgeEvent
  | .judge given => some given
  | _ => none

def sound? : PlayEvent → Option Sound
  | .sound given => some given
  | _ => none

def picture? : PlayEvent → Option Picture
  | .picture given => some given
  | _ => none

def tempo? : PlayEvent → Option TempoChange
  | .tempo given => some given
  | _ => none

def shift? : PlayEvent → Option (GaugeKind × GaugeKind)
  | .shift source target => some (source, target)
  | _ => none

end PlayEvent

namespace Session

theorem settle_eq (s : Session) :
    s.settle.2 = { s with ladder := s.settle.2.ladder, failed := s.settle.2.failed } := by
  unfold settle
  split_ifs
  · split <;> rfl
  · rfl
  · rfl

@[simp] theorem settle_setup (s : Session) : s.settle.2.setup = s.setup := by
  rw [settle_eq]

@[simp] theorem settle_clock (s : Session) : s.settle.2.clock = s.clock := by
  rw [settle_eq]

@[simp] theorem settle_cursor (s : Session) : s.settle.2.cursor = s.cursor := by
  rw [settle_eq]

@[simp] theorem settle_judged (s : Session) : s.settle.2.judged = s.judged := by
  rw [settle_eq]

@[simp] theorem settle_score (s : Session) : s.settle.2.score = s.score := by
  rw [settle_eq]

section Apply

variable (s : Session) (index? : Option Nat) (index : Nat) (lane : Lane) (judgment : Judgment)
  (diff : Float) (empty : Bool)

/-- Score and gauges with a judgment entered, before the gauges decide. -/
def entered : Session :=
  { s with score := s.score.record judgment diff empty, ladder := s.ladder.update judgment empty }

def mark : Session := { s with judged := s.judged.setIfInBounds index true }

theorem apply_state :
    (s.apply index? lane judgment diff empty).2 = (s.entered judgment diff empty).settle.2 := rfl

@[simp] theorem apply_setup : (s.apply index? lane judgment diff empty).2.setup = s.setup := by
  simp [apply_state, entered]

@[simp] theorem apply_clock : (s.apply index? lane judgment diff empty).2.clock = s.clock := by
  simp [apply_state, entered]

@[simp] theorem apply_cursor : (s.apply index? lane judgment diff empty).2.cursor = s.cursor := by
  simp [apply_state, entered]

@[simp] theorem apply_judged : (s.apply index? lane judgment diff empty).2.judged = s.judged := by
  simp [apply_state, entered]

@[simp] theorem apply_score : (s.apply index? lane judgment diff empty).2.score =
    s.score.record judgment diff empty := by
  simp [apply_state, entered]

@[simp] theorem judgeNote_setup : (s.judgeNote index lane judgment diff).2.setup = s.setup := by
  simp [judgeNote]

@[simp] theorem judgeNote_clock : (s.judgeNote index lane judgment diff).2.clock = s.clock := by
  simp [judgeNote]

@[simp] theorem judgeNote_cursor :
    (s.judgeNote index lane judgment diff).2.cursor = s.cursor := by
  simp [judgeNote]

@[simp] theorem judgeNote_judged : (s.judgeNote index lane judgment diff).2.judged =
    s.judged.setIfInBounds index true := by
  simp [judgeNote]

@[simp] theorem judgeNote_score : (s.judgeNote index lane judgment diff).2.score =
    s.score.record judgment diff false := by
  simp [judgeNote]

end Apply

def tick (s : Session) (time : Float) : List PlayEvent × Session :=
  let now := Binary64.larger s.clock time
  { s with clock := now }.fireBackground now

def inReach (s : Session) (lane : Lane) (time : Float) : List Target :=
  s.targets lane (time - s.setup.config.inputOffset) (s.window (s.cursor - lookBack))

@[ext]
structure Background where
  clock : Float
  tempo : Float
  sounds : Cursor
  tempos : Cursor
  pictures : Cursor

def background (s : Session) : Background :=
  ⟨s.clock, s.tempo, s.sounds, s.tempos, s.pictures⟩

@[simp] theorem settle_background (s : Session) : s.settle.2.background = s.background := by
  rw [settle_eq]
  rfl

@[simp] theorem apply_background (s : Session) (index? : Option Nat) (lane : Lane)
    (judgment : Judgment) (diff : Float) (empty : Bool) :
    (s.apply index? lane judgment diff empty).2.background = s.background :=
  settle_background _

@[simp] theorem judgeNote_background (s : Session) (index : Nat) (lane : Lane)
    (judgment : Judgment) (diff : Float) :
    (s.judgeNote index lane judgment diff).2.background = s.background :=
  apply_background _ _ _ _ _ _

@[simp] theorem skipJudged_background (s : Session) : s.skipJudged.background = s.background := rfl

@[simp] theorem sweep_background (now : Float) (notes : List (Note × Nat)) (s : Session) :
    (sweep now notes s).2.background = s.background := by
  induction notes generalizing s with
  | nil => rfl
  | cons entry rest ih =>
    obtain ⟨note, index⟩ := entry
    unfold sweep
    split_ifs
    · rfl
    · exact ih s
    · cases s.due? now note with
      | none => exact ih s
      | some verdict =>
        dsimp only
        split_ifs
        · exact judgeNote_background _ _ _ _ _
        · exact (ih _).trans (judgeNote_background _ _ _ _ _)

def judgments (events : List PlayEvent) : List JudgeEvent := events.filterMap PlayEvent.judge?

theorem mem_judgments {events : List PlayEvent} {event : JudgeEvent} :
    event ∈ judgments events ↔ .judge event ∈ events := by
  unfold judgments
  rw [List.mem_filterMap]
  constructor
  · rintro ⟨given, inside, found⟩
    cases given <;> cases found
    exact inside
  · intro inside
    exact ⟨.judge event, inside, rfl⟩

@[simp] theorem judgments_nil : judgments [] = [] := rfl

@[simp] theorem judgments_append (events later : List PlayEvent) :
    judgments (events ++ later) = judgments events ++ judgments later :=
  List.filterMap_append

@[simp] theorem settle_judgments (s : Session) : judgments s.settle.1 = [] := by
  unfold settle
  split_ifs
  · split <;> rfl
  · rfl
  · rfl

@[simp] theorem apply_judgments (s : Session) (index? : Option Nat) (lane : Lane)
    (judgment : Judgment) (diff : Float) (empty : Bool) :
    judgments (s.apply index? lane judgment diff empty).1 =
      [{ index?, lane, judgment, diff, empty
         combo := (s.score.record judgment diff empty).combo }] :=
  congrArg (List.cons _) (settle_judgments _)

@[simp] theorem judgeNote_judgments (s : Session) (index : Nat) (lane : Lane)
    (judgment : Judgment) (diff : Float) :
    judgments (s.judgeNote index lane judgment diff).1 =
      [{ index? := some index, lane, judgment, diff, empty := false
         combo := (s.score.record judgment diff false).combo }] :=
  apply_judgments _ _ _ _ _ _

section Tick

variable (s : Session) (time : Float)

@[simp] theorem tick_judgments : judgments (s.tick time).1 = [] := by
  simp [judgments, tick, fireBackground, List.filterMap_map, Function.comp_def, PlayEvent.judge?]

theorem tick_sounds : (s.tick time).1.filterMap PlayEvent.sound? =
    (s.sounds.fire Sound.time s.setup.chart.sounds (s.tick time).2.clock).1 := by
  simp [tick, fireBackground, List.filterMap_map, Function.comp_def, PlayEvent.sound?]

theorem tick_tempos : (s.tick time).1.filterMap PlayEvent.tempo? =
    (s.tempos.fire TempoChange.time s.setup.chart.tempoChanges (s.tick time).2.clock).1 := by
  simp [tick, fireBackground, List.filterMap_map, Function.comp_def, PlayEvent.tempo?]

theorem tick_pictures : (s.tick time).1.filterMap PlayEvent.picture? =
    (s.pictures.fire Picture.time s.setup.chart.pictures (s.tick time).2.clock).1 := by
  simp [tick, fireBackground, List.filterMap_map, Function.comp_def, PlayEvent.picture?]

end Tick

theorem mem_window {s : Session} {first : Nat} {note : Note} {index : Nat} :
    (note, index) ∈ s.window first ↔
      first ≤ index ∧ index < s.cursor + lookAhead ∧ s.notes[index]? = some note := by
  unfold window
  rw [List.mk_mem_zipIdx_iff_le_and_getElem?_sub, List.getElem?_take]
  constructor
  · rintro ⟨after, found⟩
    split_ifs at found with before
    rw [List.getElem?_drop, Nat.add_sub_cancel' after] at found
    exact ⟨after, by omega, found⟩
  · rintro ⟨after, before, found⟩
    rw [if_pos (by omega), List.getElem?_drop, Nat.add_sub_cancel' after]
    exact ⟨after, found⟩

theorem mem_targets {s : Session} {lane : Lane} {time : Float} {notes : List (Note × Nat)}
    {target : Target} :
    target ∈ s.targets lane time notes ↔
      ∃ note, (note, target.index) ∈ notes ∧ s.isJudged target.index = false ∧ note.lane = lane ∧
        target.diff = time - note.time := by
  unfold targets
  rw [List.mem_filterMap]
  constructor
  · rintro ⟨⟨note, index⟩, inside, found⟩
    dsimp only at found
    split_ifs at found with skipped
    cases found
    simp only [Bool.or_eq_true, decide_eq_true_eq, not_or, Bool.not_eq_true, ne_eq,
      Decidable.not_not] at skipped
    exact ⟨note, inside, skipped.1, skipped.2, rfl⟩
  · rintro ⟨note, inside, fresh, same, late⟩
    refine ⟨(note, target.index), inside, ?_⟩
    simp [fresh, same, ← late]

theorem nearest?_mem {targets : List Target} {target : Target}
    (found : nearest? targets = some target) : target ∈ targets := by
  have kept : ∀ t, nearest? targets = some t → t ∈ targets := by
    unfold nearest?
    apply List.foldlRecOn (motive := fun best? => ∀ t, best? = some t → t ∈ targets)
    · intro t absent
      cases absent
    · intro best? inside next given t chosen
      cases best? with
      | none =>
        cases chosen
        exact given
      | some best =>
        dsimp only at chosen
        split_ifs at chosen
        · cases chosen
          exact given
        · exact inside t chosen
  exact kept target found

theorem hit?_mem {windows : JudgeWindows} {targets : List Target} {target : Target}
    (found : hit? windows targets = some target) :
    target ∈ targets ∧ target.diff.abs ≤ windows.bad := by
  have inside := List.mem_filter.mp (nearest?_mem found)
  exact ⟨inside.1, of_decide_eq_true inside.2⟩

theorem due?_some {s : Session} {now diff : Float} {note : Note} {judgment : Judgment}
    (due : s.due? now note = some (judgment, diff)) :
    (s.setup.config.autoplay = true ∧ note.time ≤ now ∧ judgment = .pgreat ∧ diff = 0.0) ∨
      (s.setup.config.autoplay = false ∧ s.setup.windows.bad < diff ∧ judgment = .poor ∧
        diff = now - s.setup.config.inputOffset - note.time) := by
  unfold due? at due
  dsimp only at due
  split_ifs at due with autoplay reached closed
  · cases due
    exact Or.inl ⟨autoplay, reached, rfl, rfl⟩
  · cases due
    exact Or.inr ⟨by simpa using autoplay, closed, rfl, rfl⟩

inductive Move : Session → List PlayEvent → Session → Prop
  | tick {s : Session} (time : Float) (playing : s.failed = false) :
    Move s (s.tick time).1 (s.tick time).2
  | timed {s : Session} {note : Note} {index : Nat} {judgment : Judgment} {diff : Float}
    (playing : s.failed = false) (near : (note, index) ∈ s.window s.cursor)
    (fresh : s.isJudged index = false) (due : s.due? s.clock note = some (judgment, diff)) :
    Move s (s.judgeNote index note.lane judgment diff).1
      (s.judgeNote index note.lane judgment diff).2
  | hit {s : Session} {lane : Lane} {time : Float} {target : Target} (playing : s.failed = false)
    (manual : s.setup.config.autoplay = false)
    (found : hit? s.setup.windows (s.inReach lane time) = some target) :
    Move s
      (s.judgeNote target.index lane ((s.setup.windows.classify target.diff).getD .bad)
        target.diff).1
      (s.judgeNote target.index lane ((s.setup.windows.classify target.diff).getD .bad)
        target.diff).2
  | early {s : Session} {lane : Lane} {time : Float} {target : Target} (playing : s.failed = false)
    (manual : s.setup.config.autoplay = false)
    (missed : hit? s.setup.windows (s.inReach lane time) = none)
    (found : early? s.setup.windows (s.inReach lane time) = some target) :
    Move s (s.apply none lane .poor target.diff true).1 (s.apply none lane .poor target.diff true).2
  | skip (s : Session) : Move s [] s.skipJudged

inductive Moves : Session → List PlayEvent → Session → Prop
  | none (s : Session) : Moves s [] s
  | cons {s m t : Session} {events later : List PlayEvent} (first : Move s events m)
    (rest : Moves m later t) : Moves s (events ++ later) t

theorem Moves.single {s t : Session} {events : List PlayEvent} (move : Move s events t) :
    Moves s events t := by
  have chain := Moves.cons move (.none t)
  rwa [List.append_nil] at chain

theorem Moves.append {s m t : Session} {events later : List PlayEvent} (first : Moves s events m)
    (second : Moves m later t) : Moves s (events ++ later) t := by
  induction first with
  | none s => exact second
  | cons move rest ih =>
    rw [List.append_assoc]
    exact .cons move (ih second)

theorem Moves.preserves {P : Session → Prop}
    (move : ∀ s events t, P s → Move s events t → P t) {s t : Session} {events : List PlayEvent}
    (moves : Moves s events t) (start : P s) : P t := by
  induction moves with
  | none s => exact start
  | cons first rest ih => exact ih (move _ _ _ start first)

theorem sweep_moves (notes : List (Note × Nat)) (s : Session) (playing : s.failed = false)
    (near : ∀ entry ∈ notes, entry ∈ s.window s.cursor) :
    Moves s (sweep s.clock notes s).1 (sweep s.clock notes s).2 := by
  induction notes generalizing s with
  | nil => exact .none s
  | cons entry rest ih =>
    obtain ⟨note, index⟩ := entry
    have later : ∀ entry ∈ rest, entry ∈ s.window s.cursor :=
      fun entry inside => near entry (List.mem_cons_of_mem _ inside)
    unfold sweep
    split_ifs with far judged
    · exact .none s
    · exact ih s playing later
    · cases due : s.due? s.clock note with
      | none => exact ih s playing later
      | some verdict =>
        obtain ⟨judgment, diff⟩ := verdict
        have move := Move.timed playing (near _ List.mem_cons_self) (by simpa using judged) due
        dsimp only
        split_ifs with ended
        · exact .single move
        · have same : (s.judgeNote index note.lane judgment diff).2.window s.cursor =
              s.window s.cursor := by
            simp [window, notes]
          have chain := ih (s.judgeNote index note.lane judgment diff).2 (by simpa using ended)
            (by simpa [same] using later)
          rw [judgeNote_clock] at chain
          exact .cons move chain

theorem advance_failed {s : Session} (ended : s.failed = true) (time : Float) :
    s.advance time = ([], s) := by
  unfold advance
  rw [if_pos ended]

theorem advance_playing {s : Session} (playing : s.failed = false) (time : Float) :
    s.advance time =
      let ticked := (s.tick time).2
      let swept := sweep ticked.clock (ticked.window ticked.cursor) ticked
      ((s.tick time).1 ++ swept.1, swept.2.skipJudged) := by
  unfold advance
  rw [if_neg (by simp [playing])]
  rfl

theorem advance_cases (s : Session) (time : Float) :
    s.advance time = ([], s) ∨
      ∃ events m, Moves s events m ∧ s.advance time = (events, m.skipJudged) := by
  cases playing : s.failed with
  | true => exact Or.inl (advance_failed playing time)
  | false =>
    have swept := sweep_moves ((s.tick time).2.window (s.tick time).2.cursor) (s.tick time).2
      (by simpa [tick, fireBackground] using playing) fun _ inside => inside
    exact Or.inr ⟨_, _, (Moves.single (.tick time playing)).append swept,
      advance_playing playing time⟩

theorem advance_background {s : Session} (playing : s.failed = false) (time : Float) :
    (s.advance time).2.background = (s.tick time).2.background := by
  rw [advance_playing playing]
  exact sweep_background _ _ _

theorem advance_moves (s : Session) (time : Float) :
    Moves s (s.advance time).1 (s.advance time).2 := by
  rcases s.advance_cases time with same | ⟨events, m, moves, same⟩
  · rw [same]
    exact .none s
  · rw [same]
    have chain := moves.append (.single (.skip m))
    rwa [List.append_nil] at chain

theorem press_eq_answer {s : Session} (playing : s.failed = false)
    (manual : s.setup.config.autoplay = false) (lane : Lane) (time : Float) :
    s.press lane time = s.answer lane (s.inReach lane time) := by
  unfold press
  rw [playing, manual]
  rfl

theorem press_ignored {s : Session} (ignored : s.failed = true ∨ s.setup.config.autoplay = true)
    (lane : Lane) (time : Float) : s.press lane time = ([], s) := by
  unfold press
  rw [if_pos (by simpa using ignored)]

theorem press_cases (s : Session) (lane : Lane) (time : Float) :
    s.press lane time = ([], s) ∨
      (∃ events m, Move s events m ∧ s.press lane time = (events, m.skipJudged)) ∨
      ∃ diff, Move s (s.apply none lane .poor diff true).1 (s.apply none lane .poor diff true).2 ∧
        s.press lane time = s.apply none lane .poor diff true := by
  by_cases ignored : s.failed = true ∨ s.setup.config.autoplay = true
  · exact Or.inl (press_ignored ignored lane time)
  · simp only [not_or, Bool.not_eq_true] at ignored
    obtain ⟨playing, manual⟩ := ignored
    rw [press_eq_answer playing manual]
    unfold answer
    cases found : hit? s.setup.windows (s.inReach lane time) with
    | some target => exact Or.inr (Or.inl ⟨_, _, .hit playing manual found, rfl⟩)
    | none =>
      dsimp only
      cases near : early? s.setup.windows (s.inReach lane time) with
      | some target => exact Or.inr (Or.inr ⟨_, .early playing manual found near, rfl⟩)
      | none => exact Or.inl rfl

theorem press_background (s : Session) (lane : Lane) (time : Float) :
    (s.press lane time).2.background = s.background := by
  unfold press
  split_ifs
  · rfl
  · dsimp only
    unfold answer
    split
    · simp
    · split <;> simp

theorem press_moves (s : Session) (lane : Lane) (time : Float) :
    Moves s (s.press lane time).1 (s.press lane time).2 := by
  rcases s.press_cases lane time with same | ⟨events, m, move, same⟩ | ⟨diff, move, same⟩
  · rw [same]
    exact .none s
  · rw [same]
    have chain := (Moves.single move).append (.single (.skip m))
    rwa [List.append_nil] at chain
  · rw [same]
    exact .single move

theorem new_start {chart : Chart} {config : PlayConfig} {s : Session}
    (accepted : Session.new chart config = .ok s) :
    config.validate = .ok () ∧
      s = Setup.start { chart := chart.modify config.modifier, config
                        windows := config.windowsFor chart.rank } := by
  unfold Session.new at accepted
  split at accepted
  · cases accepted
  · rename_i valid
    cases accepted
    exact ⟨valid, rfl⟩

theorem step_preserves {P : Session → Prop} (restart : ∀ s, P s → P s.restart)
    (move : ∀ s events t, P s → Move s events t → P t) (s : Session) (call : Call) (start : P s) :
    P (s.step call).2 := by
  cases call with
  | advance time => exact (s.advance_moves time).preserves move start
  | press lane time => exact (s.press_moves lane time).preserves move start
  | restart => exact restart s start

theorem run_preserves {P : Session → Prop} (step : ∀ s call, P s → P (s.step call).2)
    (s : Session) (calls : List Call) (start : P s) : P (s.run calls).2 := by
  induction calls generalizing s with
  | nil => exact start
  | cons call rest ih => exact ih (s.step call).2 (step s call start)

theorem run_append (s : Session) (calls more : List Call) :
    s.run (calls ++ more) =
      ((s.run calls).1 ++ ((s.run calls).2.run more).1, ((s.run calls).2.run more).2) := by
  induction calls generalizing s with
  | nil => rfl
  | cons call rest ih => simp [run, ih]

theorem step_moves {s : Session} {call : Call} (playing : call ≠ .restart) :
    Moves s (s.step call).1 (s.step call).2 := by
  cases call with
  | advance time => exact s.advance_moves time
  | press lane time => exact s.press_moves lane time
  | restart => exact absurd rfl playing

theorem mem_run {s : Session} {calls : List Call} {event : PlayEvent}
    (given : event ∈ (s.run calls).1) : ∃ before call after,
      calls = before ++ call :: after ∧ event ∈ ((s.run before).2.step call).1 := by
  induction calls generalizing s with
  | nil => cases given
  | cons call rest ih =>
    rcases List.mem_append.mp given with now | later
    · exact ⟨[], call, rest, rfl, now⟩
    · obtain ⟨before, other, after, split, inside⟩ := ih later
      exact ⟨call :: before, other, after, by rw [split]; rfl, inside⟩

theorem run_moves (s : Session) (calls : List Call) (attempt : .restart ∉ calls) :
    Moves s (s.run calls).1 (s.run calls).2 := by
  induction calls generalizing s with
  | nil => exact .none s
  | cons call rest ih =>
    rw [List.mem_cons, not_or] at attempt
    exact (step_moves (Ne.symm attempt.1)).append (ih (s.step call).2 attempt.2)

theorem attempt_preserves {P : Session → Prop}
    (move : ∀ s events t, P s → Move s events t → P t) (s : Session) (calls : List Call)
    (attempt : .restart ∉ calls) (start : P s) : P (s.run calls).2 :=
  (run_moves s calls attempt).preserves move start

theorem Move.same_setup {s t : Session} {events : List PlayEvent} (move : Move s events t) :
    t.setup = s.setup := by
  cases move with
  | tick time playing => rfl
  | timed playing near fresh due => exact judgeNote_setup _ _ _ _ _
  | hit playing manual found => exact judgeNote_setup _ _ _ _ _
  | early playing manual missed found => exact apply_setup _ _ _ _ _ _
  | skip => rfl

theorem Moves.same_setup {s t : Session} {events : List PlayEvent} (moves : Moves s events t) :
    t.setup = s.setup :=
  moves.preserves (P := fun m => m.setup = s.setup)
    (fun _ _ _ same move => move.same_setup.trans same) rfl

theorem run_setup (s : Session) (calls : List Call) : (s.run calls).2.setup = s.setup :=
  run_preserves (P := fun t => t.setup = s.setup)
    (step_preserves (fun _ same => same) fun _ _ _ same move => move.same_setup.trans same)
    s calls rfl

end Session
end NoteChart
