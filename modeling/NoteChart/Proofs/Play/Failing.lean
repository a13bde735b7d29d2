import NoteChart.Proofs.Play.Replaying

/-!
Failure. A play fails only when the gauges decide so after a judgment, and then the call ends without
another event. So failure is the last that a play tells, or it is not told at all; and a session that
has failed answers nothing any more and stays as it is.
-/
namespace NoteChart.Session

/-- What events say of the end of a play: failure comes once and last, or not at all. -/
inductive Concludes : List PlayEvent → Bool → Prop
  | lasting {events : List PlayEvent} (silent : .failed ∉ events) : Concludes events false
  | ended {events : List PlayEvent} (silent : .failed ∉ events) :
    Concludes (events ++ [.failed]) true

variable {s t : Session} {events later : List PlayEvent} {failed : Bool}

namespace Concludes

theorem append (silent : .failed ∉ events) (concludes : Concludes later failed) :
    Concludes (events ++ later) failed := by
  cases concludes with
  | lasting silent' => exact .lasting (by simp [silent, silent'])
  | ended silent' =>
    rw [← List.append_assoc]
    exact .ended (by simp [silent, silent'])

theorem cons {event : PlayEvent} (other : event ≠ .failed) (concludes : Concludes later failed) :
    Concludes (event :: later) failed := by
  have silent : .failed ∉ [event] := by simpa [eq_comm] using other
  exact append silent concludes

theorem failed_iff (concludes : Concludes events failed) : failed = true ↔ .failed ∈ events := by
  cases concludes with
  | lasting silent => simp [silent]
  | ended silent => simp

theorem count_le (concludes : Concludes events failed) : events.count .failed ≤ 1 := by
  cases concludes with
  | lasting silent => simp [List.count_eq_zero_of_not_mem silent]
  | ended silent => simp [List.count_eq_zero_of_not_mem silent]

theorem last {before after : List PlayEvent} (concludes : Concludes events failed)
    (split : events = before ++ .failed :: after) : after = [] := by
  cases concludes with
  | lasting silent =>
    subst split
    simp at silent
  | ended silent =>
    rcases List.eq_nil_or_concat after with none | ⟨front, event, rfl⟩
    · exact none
    · rw [List.concat_eq_append, ← List.cons_append, ← List.append_assoc] at split
      rw [(List.append_inj' split rfl).1] at silent
      simp at silent

theorem ending (concludes : Concludes events true) :
    ∃ before, events = before ++ [.failed] ∧ .failed ∉ before := by
  cases concludes with
  | ended silent => exact ⟨_, rfl, silent⟩

theorem settle (playing : s.failed = false) : Concludes s.settle.1 s.settle.2.failed := by
  have stays : Concludes [] s.failed := playing ▸ .lasting List.not_mem_nil
  have fails : Concludes s.fail.1 s.fail.2.failed := by
    change Concludes ([] ++ [.failed]) true
    exact .ended List.not_mem_nil
  unfold Session.settle
  split_ifs
  · split
    · exact stays
    · exact stays.cons nofun
    · exact fails
  · exact fails
  · exact stays

theorem apply (playing : s.failed = false) (index? : Option Nat) (lane : Lane)
    (judgment : Judgment) (diff : Float) (empty : Bool) :
    Concludes (s.apply index? lane judgment diff empty).1
      (s.apply index? lane judgment diff empty).2.failed :=
  (settle (s := s.entered judgment diff empty) playing).cons nofun

theorem judgeNote (playing : s.failed = false) (index : Nat) (lane : Lane) (judgment : Judgment)
    (diff : Float) :
    Concludes (s.judgeNote index lane judgment diff).1
      (s.judgeNote index lane judgment diff).2.failed :=
  apply (s := s.mark index) playing _ _ _ _ _

theorem move (playing : s.failed = false) (move : Move s events t) :
    Concludes events t.failed := by
  cases move with
  | tick time playing =>
    change Concludes _ s.failed
    rw [playing]
    exact .lasting (by simp [tick, fireBackground])
  | timed playing near fresh due => exact judgeNote playing _ _ _ _
  | hit playing manual found => exact judgeNote playing _ _ _ _
  | early playing manual missed found => exact apply playing _ _ _ _ _
  | skip =>
    change Concludes _ s.failed
    rw [playing]
    exact .lasting List.not_mem_nil

end Concludes

theorem Moves.concludes (moves : Moves s events t) (playing : s.failed = false) :
    Concludes events t.failed := by
  induction moves with
  | none s => exact playing ▸ .lasting List.not_mem_nil
  | @cons s m t events later first rest ih =>
    have now := Concludes.move playing first
    cases lasting : m.failed with
    | false =>
      refine (ih lasting).append ?_
      simpa [lasting] using now.failed_iff
    | true =>
      obtain ⟨rfl, ended⟩ := rest.of_failed lasting
      rw [List.append_nil, ended, ← lasting]
      exact now

theorem run_failed (ended : s.failed = true) {calls : List Call} (attempt : .restart ∉ calls) :
    s.run calls = ([], s) := by
  induction calls with
  | nil => rfl
  | cons call rest ih =>
    rw [List.mem_cons, not_or] at attempt
    have still : s.step call = ([], s) := by
      cases call with
      | advance time => exact advance_failed ended time
      | press lane time => exact press_ignored (Or.inl ended) lane time
      | restart => exact absurd rfl attempt.1
    simp [run, still, ih attempt.2]

theorem run_concludes {chart : Chart} {config : PlayConfig} {s₀ : Session}
    (accepted : Session.new chart config = .ok s₀) {calls : List Call}
    (attempt : .restart ∉ calls) : Concludes (s₀.run calls).1 (s₀.run calls).2.failed := by
  obtain ⟨-, rfl⟩ := new_start accepted
  exact (run_moves _ calls attempt).concludes rfl

/-- Failure is the end of a play. However a session is called, short of a restart, its events tell
of failure at most once, as the last of them, and exactly if it has failed; from then on every call
gets no answer and changes nothing. A replay whose result says that the play failed ends on it
too. -/
theorem failure_is_final {chart : Chart} {config : PlayConfig} {s₀ : Session}
    (accepted : Session.new chart config = .ok s₀) :
    (∀ calls, .restart ∉ calls →
      let events := (s₀.run calls).1
      let s := (s₀.run calls).2
      (s.failed = true ↔ .failed ∈ events) ∧ events.count .failed ≤ 1 ∧
      (∀ before after, events = before ++ .failed :: after → after = []) ∧
      (s.failed = true → (∀ time, s.advance time = ([], s)) ∧
        (∀ lane time, s.press lane time = ([], s)) ∧
        ∀ more, .restart ∉ more → s₀.run (calls ++ more) = (events, s))) ∧
    ∀ inputs, ∃ events final, replay chart config inputs = .ok (events, final) ∧
      (final.result.failed = true → ∃ before, events = before ++ [.failed] ∧ .failed ∉ before) := by
  refine ⟨?_, ?_⟩
  · intro calls attempt events s
    have concludes := run_concludes accepted attempt
    refine ⟨concludes.failed_iff, concludes.count_le, fun before after => concludes.last, ?_⟩
    intro ended
    refine ⟨advance_failed ended, press_ignored (Or.inl ended), ?_⟩
    intro more attempt'
    simp [run_append, run_failed ended attempt', events, s]
  · intro inputs
    obtain ⟨calls, attempt, played⟩ := replay_run accepted inputs
    refine ⟨_, _, played, ?_⟩
    intro ended
    have attempt' : .restart ∉ calls ++ [.advance s₀.setup.chart.duration] := by
      simpa using attempt
    have concludes := run_concludes accepted attempt'
    change Session.failed _ = true at ended
    rw [ended] at concludes
    exact concludes.ending

theorem failure_is_final_of_one_miss :
    let chart := { Chart.empty with
      notes := [⟨1000.0, 0x11, ⟨.p1, .key 1⟩, ⟨1⟩⟩, ⟨1000.0, 0x12, ⟨.p1, .key 2⟩, ⟨2⟩⟩]
      noteCount := 2 }
    let config := { PlayConfig.standard with gauge := .hazard }
    ∃ s₀, Session.new chart config = .ok s₀ ∧
      let s := (s₀.run [.advance 900.0, .advance 5000.0]).2
      s.failed = true ∧ s.score.counts.poor = 1 ∧ s.advance 6000.0 = ([], s) := by
  have accepts : PlayConfig.validate { PlayConfig.standard with gauge := .hazard } = .ok () := rfl
  intro chart config
  have valid : config.validate = .ok () := accepts
  obtain ⟨s₀, accepted⟩ : ∃ s₀, Session.new chart config = .ok s₀ := by
    unfold Session.new
    rw [valid]
    exact ⟨_, rfl⟩
  obtain ⟨-, -, -, still⟩ :=
    (failure_is_final accepted).1 [.advance 900.0, .advance 5000.0] (by decide)
  have start := (new_start accepted).2
  have ended : (s₀.run [.advance 900.0, .advance 5000.0]).2.failed = true := by
    rw [start]
    decide +kernel
  refine ⟨s₀, accepted, ended, ?_, (still ended).1 6000.0⟩
  rw [start]
  decide +kernel

end NoteChart.Session
