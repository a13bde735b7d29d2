import NoteChart.Proofs.Play.Flags

/-!
Why a session judges. Every judgment has one of four causes: the clock of an autoplay has reached a
note, a press hit a note, the clock has passed the last window of a note, or a press came too early
for a note. The first three are about a note without a judgment, and give it its only one.
-/
namespace NoteChart

def Judgment.rank : Judgment → Nat
  | .pgreat => 0
  | .great => 1
  | .good => 2
  | .bad => 3
  | .poor => 4

namespace JudgeWindows

def width (windows : JudgeWindows) : Judgment → Float
  | .pgreat => windows.pgreat
  | .great => windows.great
  | .good => windows.good
  | .bad => windows.bad
  | .poor => windows.poor

/-- A hit that is off by `diff` belongs to this tier: it reaches so far, and no better one does. -/
structure IsTier (windows : JudgeWindows) (diff : Float) (judgment : Judgment) : Prop where
  hit : judgment ≠ .poor
  reached : diff.abs ≤ windows.width judgment
  best : ∀ better : Judgment, better.rank < judgment.rank → ¬diff.abs ≤ windows.width better

theorem classify_isTier {windows : JudgeWindows} {diff : Float} {judgment : Judgment}
    (given : windows.classify diff = some judgment) : windows.IsTier diff judgment := by
  unfold classify at given
  dsimp only at given
  split_ifs at given with pgreat great good bad <;> cases given
  · refine ⟨by decide, pgreat, ?_⟩
    intro better below
    cases better <;> simp [Judgment.rank] at below
  · refine ⟨by decide, great, ?_⟩
    intro better below
    cases better <;> simp [Judgment.rank] at below
    exact pgreat
  · refine ⟨by decide, good, ?_⟩
    intro better below
    cases better <;> simp [Judgment.rank] at below
    · exact pgreat
    · exact great
  · refine ⟨by decide, bad, ?_⟩
    intro better below
    cases better <;> simp [Judgment.rank] at below
    · exact pgreat
    · exact great
    · exact good

theorem classify_of_hit {windows : JudgeWindows} {diff : Float}
    (near : diff.abs ≤ windows.bad) :
    windows.IsTier diff ((windows.classify diff).getD .bad) := by
  cases given : windows.classify diff with
  | some judgment => exact classify_isTier given
  | none =>
    unfold classify at given
    simp [near] at given
    split_ifs at given

end JudgeWindows

namespace Session

variable {s : Session} {event : JudgeEvent}

structure Awaits (s : Session) (index : Nat) (note : Note) : Prop where
  here : s.notes[index]? = some note
  fresh : s.isJudged index = false

/-- Why a session answers a call with a judgment. -/
inductive Justifies (s : Session) (event : JudgeEvent) : Call → Prop
  | autoplayed {time : Float} {index : Nat} {note : Note}
    (autoplay : s.setup.config.autoplay = true) (awaits : s.Awaits index note)
    (reached : note.time ≤ (s.advance time).2.clock)
    (about : event.index? = some index ∧ event.lane = note.lane)
    (verdict : event.judgment = .pgreat ∧ event.diff = 0.0 ∧ event.empty = false) :
    Justifies s event (.advance time)
  | hit {lane : Lane} {time : Float} {index : Nat} {note : Note}
    (manual : s.setup.config.autoplay = false) (awaits : s.Awaits index note)
    (same : note.lane = lane)
    (late : event.diff = time - s.setup.config.inputOffset - note.time)
    (near : event.diff.abs ≤ s.setup.windows.bad)
    (about : event.index? = some index ∧ event.lane = lane)
    (verdict : s.setup.windows.IsTier event.diff event.judgment ∧ event.empty = false) :
    Justifies s event (.press lane time)
  | missed {time : Float} {index : Nat} {note : Note}
    (manual : s.setup.config.autoplay = false) (awaits : s.Awaits index note)
    (late : event.diff = (s.advance time).2.clock - s.setup.config.inputOffset - note.time)
    (closed : s.setup.windows.bad < event.diff)
    (about : event.index? = some index ∧ event.lane = note.lane)
    (verdict : event.judgment = .poor ∧ event.empty = false) :
    Justifies s event (.advance time)
  | early {lane : Lane} {time : Float} {index : Nat} {note : Note}
    (manual : s.setup.config.autoplay = false) (awaits : s.Awaits index note)
    (same : note.lane = lane)
    (late : event.diff = time - s.setup.config.inputOffset - note.time)
    (outside : s.setup.windows.bad < -event.diff) (inside : -event.diff ≤ s.setup.windows.poor)
    (about : event.index? = none ∧ event.lane = lane)
    (verdict : event.judgment = .poor ∧ event.empty = true)
    (harmless : (s.press lane time).2.judged = s.judged ∧
      (s.press lane time).2.score.counts = s.score.counts ∧
      (s.press lane time).2.score.combo = s.score.combo) :
    Justifies s event (.press lane time)

theorem fresh_of_judgeNote {index i : Nat} {lane : Lane} {judgment : Judgment} {diff : Float}
    (fresh : (s.judgeNote index lane judgment diff).2.isJudged i = false) :
    s.isJudged i = false := by
  unfold isJudged at fresh ⊢
  rw [judgeNote_judged, Array.getD_eq_getD_getElem?, Array.getElem?_setIfInBounds] at fresh
  rw [Array.getD_eq_getD_getElem?]
  split_ifs at fresh with same
  · exact absurd fresh (by simp)
  · rw [← same, Array.getElem?_eq_none (by omega)]
    rfl
  · exact fresh

theorem judgeNote_due? (index : Nat) (lane : Lane) (judgment : Judgment) (diff now : Float)
    (note : Note) : (s.judgeNote index lane judgment diff).2.due? now note = s.due? now note := by
  simp [due?]

def Brings (s : Session) (now : Float) (notes : List (Note × Nat)) (event : JudgeEvent) : Prop :=
  ∃ note index, (note, index) ∈ notes ∧ s.isJudged index = false ∧
    s.due? now note = some (event.judgment, event.diff) ∧
    event.index? = some index ∧ event.lane = note.lane ∧ event.empty = false

theorem Brings.cons {now : Float} {notes : List (Note × Nat)} (brings : s.Brings now notes event)
    (entry : Note × Nat) : s.Brings now (entry :: notes) event := by
  obtain ⟨note, index, inside, found⟩ := brings
  exact ⟨note, index, List.mem_cons_of_mem _ inside, found⟩

theorem Brings.of_judgeNote {now diff : Float} {notes : List (Note × Nat)} {index : Nat}
    {lane : Lane} {judgment : Judgment}
    (brings : (s.judgeNote index lane judgment diff).2.Brings now notes event) :
    s.Brings now notes event := by
  obtain ⟨note, i, inside, fresh, due, found⟩ := brings
  exact ⟨note, i, inside, fresh_of_judgeNote fresh, by rwa [judgeNote_due?] at due, found⟩

theorem sweep_brings {now : Float} {notes : List (Note × Nat)}
    (given : event ∈ judgments (sweep now notes s).1) : s.Brings now notes event := by
  induction notes generalizing s with
  | nil => cases given
  | cons entry rest ih =>
    obtain ⟨note, index⟩ := entry
    unfold sweep at given
    split_ifs at given with far judged
    · cases given
    · exact (ih given).cons _
    · cases due : s.due? now note with
      | none =>
        rw [due] at given
        exact (ih given).cons _
      | some verdict =>
        obtain ⟨judgment, diff⟩ := verdict
        rw [due] at given
        dsimp only at given
        have here (now' : event ∈ judgments (s.judgeNote index note.lane judgment diff).1) :
            s.Brings now ((note, index) :: rest) event := by
          rw [judgeNote_judgments, List.mem_singleton] at now'
          subst now'
          exact ⟨note, index, List.mem_cons_self, by simpa using judged, due, rfl, rfl, rfl⟩
        split_ifs at given with ended
        · exact here given
        · rw [judgments_append] at given
          rcases List.mem_append.mp given with now' | later
          · exact here now'
          · exact (ih later).of_judgeNote.cons _

theorem advance_justified {time : Float} (given : event ∈ judgments (s.advance time).1) :
    s.Justifies event (.advance time) := by
  cases playing : s.failed with
  | true =>
    rw [advance_failed playing] at given
    cases given
  | false =>
    have clock : (s.advance time).2.clock = (s.tick time).2.clock :=
      congrArg Background.clock (advance_background playing time)
    rw [advance_playing playing] at given
    simp only [judgments_append, tick_judgments, List.nil_append] at given
    obtain ⟨note, index, near, fresh, due, about, same, full⟩ := sweep_brings given
    have awaits : s.Awaits index note := ⟨(mem_window.mp near).2.2, fresh⟩
    rcases due?_some due with ⟨autoplay, reached, verdict⟩ | ⟨manual, closed, poor, late⟩
    · exact .autoplayed autoplay awaits (clock ▸ reached) ⟨about, same⟩
        ⟨verdict.1, verdict.2, full⟩
    · exact .missed manual awaits (clock ▸ late) closed ⟨about, same⟩ ⟨poor, full⟩

theorem press_judgments (s : Session) (lane : Lane) (time : Float) :
    (judgments (s.press lane time).1).length ≤ 1 := by
  unfold press
  split_ifs
  · simp
  · dsimp only
    unfold answer
    split
    · simp
    · split <;> simp

theorem press_justified {lane : Lane} {time : Float}
    (given : event ∈ judgments (s.press lane time).1) : s.Justifies event (.press lane time) := by
  by_cases ignored : s.failed = true ∨ s.setup.config.autoplay = true
  · rw [press_ignored ignored] at given
    cases given
  · simp only [not_or, Bool.not_eq_true] at ignored
    have pressed := press_eq_answer ignored.1 ignored.2 lane time
    unfold answer at pressed
    cases found : hit? s.setup.windows (s.inReach lane time) with
    | some target =>
      rw [found] at pressed
      rw [pressed] at given
      obtain ⟨reached, near⟩ := hit?_mem found
      obtain ⟨note, inside, fresh, same, late⟩ := mem_targets.mp reached
      rw [judgeNote_judgments, List.mem_singleton] at given
      subst given
      exact .hit ignored.2 ⟨(mem_window.mp inside).2.2, fresh⟩ same late near ⟨rfl, rfl⟩
        ⟨JudgeWindows.classify_of_hit near, rfl⟩
    | none =>
      rw [found] at pressed
      dsimp only at pressed
      cases early : early? s.setup.windows (s.inReach lane time) with
      | some target =>
        rw [early] at pressed
        rw [pressed, apply_judgments, List.mem_singleton] at given
        subst given
        obtain ⟨note, inside, fresh, same, late⟩ :=
          mem_targets.mp (List.mem_of_find?_eq_some early)
        have bounds := List.find?_some early
        simp only [Bool.and_eq_true, decide_eq_true_eq] at bounds
        refine .early ignored.2 ⟨(mem_window.mp inside).2.2, fresh⟩ same late bounds.1 bounds.2
          ⟨rfl, rfl⟩ ⟨rfl, rfl⟩ ?_
        rw [pressed]
        simp [Score.record]
      | none =>
        rw [early] at pressed
        rw [pressed] at given
        cases given

theorem step_justified {call : Call} (given : event ∈ judgments (s.step call).1) :
    s.Justifies event call := by
  cases call with
  | advance time => exact advance_justified given
  | press lane time => exact press_justified given
  | restart => cases given

/-- In a play without restart no note is judged twice, and every judgment has one of the four
causes, in the state in which its call found the session. A press brings at most one judgment, and
leaves the clock, the tempo and all that the clock hands out alone. -/
theorem judgments_justified {chart : Chart} {config : PlayConfig} {s₀ : Session}
    (accepted : Session.new chart config = .ok s₀) (calls : List Call)
    (attempt : .restart ∉ calls) :
    (noteIndices (s₀.run calls).1).Nodup ∧
    (∀ event, .judge event ∈ (s₀.run calls).1 → ∃ before call after,
      calls = before ++ call :: after ∧ .judge event ∈ ((s₀.run before).2.step call).1 ∧
      (s₀.run before).2.Justifies event call) ∧
    ∀ lane time,
      let s := (s₀.run calls).2
      (judgments (s.press lane time).1).length ≤ 1 ∧
      (s.press lane time).2.clock = s.clock ∧ (s.press lane time).2.tempo = s.tempo ∧
      (s.press lane time).2.sounds = s.sounds ∧ (s.press lane time).2.tempos = s.tempos ∧
      (s.press lane time).2.pictures = s.pictures := by
  obtain ⟨-, rfl⟩ := new_start accepted
  refine ⟨((Aligned.start _).moves_indices (run_moves _ calls attempt)).1, ?_, ?_⟩
  · intro event given
    obtain ⟨before, call, after, split, inside⟩ := mem_run given
    exact ⟨before, call, after, split, inside, step_justified (mem_judgments.mpr inside)⟩
  · intro lane time s
    have same := press_background s lane time
    exact ⟨press_judgments s lane time, congrArg Background.clock same,
      congrArg Background.tempo same, congrArg Background.sounds same,
      congrArg Background.tempos same, congrArg Background.pictures same⟩

theorem judgments_justified_of_hit_and_miss :
    let chart := { Chart.empty with
      notes := [⟨1000.0, 0x11, ⟨.p1, .key 1⟩, ⟨1⟩⟩, ⟨2000.0, 0x12, ⟨.p1, .key 2⟩, ⟨2⟩⟩]
      noteCount := 2 }
    let calls := [Call.advance 900.0, .press ⟨.p1, .key 1⟩ 1010.0, .press ⟨.p1, .key 2⟩ 1770.0,
      .advance 5000.0]
    ∃ s₀, Session.new chart .standard = .ok s₀ ∧ .restart ∉ calls ∧
      noteIndices (s₀.run calls).1 = [0, 1] ∧ (noteIndices (s₀.run calls).1).Nodup := by
  intro chart calls
  obtain ⟨s₀, accepted⟩ : ∃ s₀, Session.new chart .standard = .ok s₀ := ⟨_, rfl⟩
  have attempt : .restart ∉ calls := by decide
  refine ⟨s₀, accepted, attempt, ?_, (judgments_justified accepted calls attempt).1⟩
  rw [(new_start accepted).2]
  decide +kernel

end Session
end NoteChart
