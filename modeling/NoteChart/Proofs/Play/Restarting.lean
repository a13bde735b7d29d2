import NoteChart.Proofs.Play.Move
import Mathlib.Data.List.DropRight

/-!
Restarts. Nothing that a session does touches its setup, which holds the chart with its lanes already
in the order of play; and the setup is all that a restart looks at. So a restart brings back the very
session that the play began with, and of a sequence of calls only those since the last restart count.
-/
namespace NoteChart.Session

/-- The calls of the last attempt, those after the last restart. -/
def lastAttempt (calls : List Call) : List Call := calls.rtakeWhile (· ≠ .restart)

theorem lastAttempt_concat (calls : List Call) (call : Call) :
    lastAttempt (calls ++ [call]) =
      if call = .restart then [] else lastAttempt calls ++ [call] := by
  unfold lastAttempt
  rw [List.rtakeWhile_concat]
  by_cases again : call = .restart <;> simp [again]

theorem restart_not_mem_lastAttempt (calls : List Call) : .restart ∉ lastAttempt calls := by
  intro inside
  have other := List.mem_rtakeWhile_imp inside
  simp at other

theorem run_concat (s : Session) (calls : List Call) (call : Call) :
    (s.run (calls ++ [call])).2 = ((s.run calls).2.step call).2 := by
  rw [run_append]
  rfl

theorem restart_run (setup : Setup) (calls : List Call) :
    (setup.start.run calls).2.restart = setup.start := by
  unfold restart
  rw [run_setup]
  rfl

/-- Whatever came before the last restart has left no trace. -/
theorem run_lastAttempt (setup : Setup) (calls : List Call) :
    (setup.start.run calls).2 = (setup.start.run (lastAttempt calls)).2 := by
  induction calls using List.reverseRecOn with
  | nil => rfl
  | append_singleton calls call ih =>
    rw [run_concat, lastAttempt_concat]
    by_cases again : call = .restart
    · rw [if_pos again, again]
      exact restart_run setup calls
    · rw [if_neg again, run_concat, ih]

/-- A restart is a fresh attempt. However a session has been called, restarting it gives the session
that was made at first, so all calls that follow get the same answers and lead to the same result as
they would there. Chart, settings and windows stay as they were made, at every moment of a call; the
lanes of the chart are put in the order of play once and for all. -/
theorem restart_is_fresh {chart : Chart} {config : PlayConfig} {s₀ : Session}
    (accepted : Session.new chart config = .ok s₀) (calls : List Call) :
    let s := (s₀.run calls).2
    s.restart = s₀ ∧
    (∀ more, (s.restart.run more).1 = (s₀.run more).1 ∧
      (s.restart.run more).2.result = (s₀.run more).2.result ∧
      s₀.run (calls ++ .restart :: more) =
        ((s₀.run calls).1 ++ (s₀.run more).1, (s₀.run more).2)) ∧
    ∀ events m, Moves s events m →
      m.setup.chart = chart.modify config.modifier ∧ m.setup.config = config ∧
        m.setup.windows = config.windowsFor chart.rank := by
  intro s
  obtain ⟨-, rfl⟩ := new_start accepted
  have fresh : s.restart = _ := restart_run _ calls
  refine ⟨fresh, ?_, ?_⟩
  · intro more
    refine ⟨by rw [fresh], by rw [fresh], ?_⟩
    rw [run_append]
    change (_ ++ ([] ++ (s.restart.run more).1), (s.restart.run more).2) = _
    rw [fresh, List.nil_append]
  · intro events m moves
    have same := moves.same_setup.trans (run_setup _ calls)
    rw [same]
    exact ⟨rfl, rfl, rfl⟩

theorem restart_is_fresh_of_shuffled_play :
    let chart := { Chart.empty with
      notes := [⟨1000.0, 0x11, ⟨.p1, .key 1⟩, ⟨1⟩⟩, ⟨2000.0, 0x12, ⟨.p1, .key 2⟩, ⟨2⟩⟩]
      noteCount := 2 }
    let config := { PlayConfig.standard with modifier := .random 42 }
    let calls := [Call.advance 900.0, .press ⟨.p1, .key 1⟩ 1010.0, .restart, .advance 5000.0]
    ∃ s₀, Session.new chart config = .ok s₀ ∧ (s₀.run calls).2.restart = s₀ ∧
      s₀.run (calls ++ .restart :: calls) =
        ((s₀.run calls).1 ++ (s₀.run calls).1, (s₀.run calls).2) := by
  intro chart config calls
  have valid : config.validate = .ok () := by decide +kernel
  obtain ⟨s₀, accepted⟩ : ∃ s₀, Session.new chart config = .ok s₀ := by
    unfold Session.new
    rw [valid]
    exact ⟨_, rfl⟩
  obtain ⟨fresh, repeated, -⟩ := restart_is_fresh accepted calls
  exact ⟨s₀, accepted, fresh, (repeated calls).2.2⟩

end NoteChart.Session
