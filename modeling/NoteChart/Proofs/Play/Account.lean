import NoteChart.Proofs.Play.Move

/-!
What the events of a play tell. Entering the judgments of the events, in their order, into a fresh
score and fresh gauges gives the score and the gauges of the session. The shifts lead from the kind
of gauge at the start to the active one, the last tempo change is the one in effect, and the play
has failed exactly when an event says so.
-/
namespace NoteChart

def Score.after (score : Score) (judgments : List JudgeEvent) : Score :=
  judgments.foldl (fun score event => score.record event.judgment event.diff event.empty) score

def GaugeLadder.after (ladder : GaugeLadder) (judgments : List JudgeEvent) : GaugeLadder :=
  judgments.foldl (fun ladder event => ladder.update event.judgment event.empty) ladder

theorem Score.after_append (score : Score) (first second : List JudgeEvent) :
    score.after (first ++ second) = (score.after first).after second :=
  List.foldl_append

theorem GaugeLadder.after_append (ladder : GaugeLadder) (first second : List JudgeEvent) :
    ladder.after (first ++ second) = (ladder.after first).after second :=
  List.foldl_append

theorem GaugeLadder.after_gauges {ladder other : GaugeLadder} (same : ladder.gauges = other.gauges)
    (judgments : List JudgeEvent) :
    (ladder.after judgments).gauges = (other.after judgments).gauges := by
  induction judgments generalizing ladder other with
  | nil => exact same
  | cons event rest ih =>
    apply ih
    simp [GaugeLadder.update, same]

/-- Every shift leaves the kind that the one before has reached. -/
def Leads (start finish : GaugeKind) : List (GaugeKind × GaugeKind) → Prop
  | [] => start = finish
  | (source, target) :: rest => source = start ∧ Leads target finish rest

theorem Leads.append {start middle finish : GaugeKind} {first second : List (GaugeKind × GaugeKind)}
    (here : Leads start middle first) (there : Leads middle finish second) :
    Leads start finish (first ++ second) := by
  induction first generalizing start with
  | nil =>
    cases here
    exact there
  | cons shift rest ih => exact ⟨here.1, ih here.2⟩

namespace Session

def gaugeShifts (events : List PlayEvent) : List (GaugeKind × GaugeKind) :=
  events.filterMap PlayEvent.shift?

def tempoChanges (events : List PlayEvent) : List TempoChange :=
  events.filterMap PlayEvent.tempo?

def tempoAfter (tempo : Float) (events : List PlayEvent) : Float :=
  ((tempoChanges events).getLast?.map TempoChange.bpm).getD tempo

@[simp] theorem gaugeShifts_append (events later : List PlayEvent) :
    gaugeShifts (events ++ later) = gaugeShifts events ++ gaugeShifts later :=
  List.filterMap_append

theorem tempoAfter_append (tempo : Float) (events later : List PlayEvent) :
    tempoAfter tempo (events ++ later) = tempoAfter (tempoAfter tempo events) later := by
  unfold tempoAfter tempoChanges
  rw [List.filterMap_append, List.getLast?_append]
  cases (later.filterMap PlayEvent.tempo?).getLast? <;> rfl

/-- The events on the way from one state of a session to another tell what has changed. -/
structure Accounts (s : Session) (events : List PlayEvent) (t : Session) : Prop where
  score : t.score = s.score.after (judgments events)
  gauges : t.ladder.gauges = (s.ladder.after (judgments events)).gauges
  combos : ∀ before event after, judgments events = before ++ event :: after →
    event.combo = (s.score.after (before ++ [event])).combo
  shifts : Leads s.ladder.active t.ladder.active (gaugeShifts events)
  tempo : t.tempo = tempoAfter s.tempo events
  failed : t.failed = true ↔ s.failed = true ∨ .failed ∈ events

namespace Accounts

variable {s m t : Session} {events later : List PlayEvent}

theorem of_quiet (quiet : judgments events = []) (score : t.score = s.score)
    (gauges : t.ladder.gauges = s.ladder.gauges)
    (shifts : Leads s.ladder.active t.ladder.active (gaugeShifts events))
    (tempo : t.tempo = tempoAfter s.tempo events)
    (failed : t.failed = true ↔ s.failed = true ∨ .failed ∈ events) : s.Accounts events t where
  score := by
    rw [quiet]
    exact score
  gauges := by
    rw [quiet]
    exact gauges
  combos := by
    intro before event after split
    rw [quiet] at split
    simp at split
  shifts := shifts
  tempo := tempo
  failed := failed

theorem none (s : Session) : s.Accounts [] s :=
  of_quiet rfl rfl rfl rfl rfl (by simp)

theorem append (first : s.Accounts events m) (second : m.Accounts later t) :
    s.Accounts (events ++ later) t where
  score := by rw [second.score, first.score, judgments_append, Score.after_append]
  gauges := by
    rw [second.gauges, judgments_append, GaugeLadder.after_append]
    exact GaugeLadder.after_gauges first.gauges _
  combos := by
    intro before event after split
    rw [judgments_append] at split
    rcases List.append_eq_append_iff.mp split with ⟨front, same, rest⟩ | ⟨back, same, rest⟩
    · rw [same, List.append_assoc, Score.after_append, ← first.score]
      exact second.combos front event after rest
    · cases back with
      | nil =>
        rw [List.append_nil] at same
        rw [← same, Score.after_append, ← first.score]
        exact second.combos [] event after rest.symm
      | cons e back =>
        cases rest
        exact first.combos before event back same
  shifts := by
    rw [gaugeShifts_append]
    exact first.shifts.append second.shifts
  tempo := by rw [second.tempo, first.tempo, tempoAfter_append]
  failed := by rw [second.failed, first.failed, List.mem_append, or_assoc]

theorem settle (s : Session) : s.Accounts s.settle.1 s.settle.2 := by
  have quiet := settle_judgments s
  unfold Session.settle at quiet ⊢
  split_ifs
  · split
    · exact none s
    · exact of_quiet rfl rfl rfl ⟨rfl, rfl⟩ rfl (by simp)
    · exact of_quiet rfl rfl rfl rfl rfl (by simp [fail])
  · exact of_quiet rfl rfl rfl rfl rfl (by simp [fail])
  · exact none s

theorem apply (s : Session) (index? : Option Nat) (lane : Lane) (judgment : Judgment)
    (diff : Float) (empty : Bool) :
    s.Accounts (s.apply index? lane judgment diff empty).1
      (s.apply index? lane judgment diff empty).2 := by
  have entered (event : JudgeEvent) (same : event.judgment = judgment ∧ event.diff = diff ∧
      event.empty = empty) (combo : event.combo = (s.score.record judgment diff empty).combo) :
      s.Accounts [.judge event] (s.entered judgment diff empty) := by
    obtain ⟨rfl, rfl, rfl⟩ := same
    refine ⟨rfl, rfl, ?_, rfl, rfl, by simp [Session.entered]⟩
    intro before other after split
    change [event] = before ++ other :: after at split
    cases before with
    | nil =>
      cases split
      exact combo
    | cons first rest => simp at split
  exact (entered _ ⟨rfl, rfl, rfl⟩ rfl).append (settle _)

theorem judgeNote (s : Session) (index : Nat) (lane : Lane) (judgment : Judgment) (diff : Float) :
    s.Accounts (s.judgeNote index lane judgment diff).1
      (s.judgeNote index lane judgment diff).2 := by
  have marked := apply (s.mark index) (some index) lane judgment diff false
  exact ⟨marked.score, marked.gauges, marked.combos, marked.shifts, marked.tempo, marked.failed⟩

theorem tick (s : Session) (time : Float) : s.Accounts (s.tick time).1 (s.tick time).2 := by
  refine of_quiet (tick_judgments s time) rfl rfl ?_ ?_ ?_
  · have still : gaugeShifts (s.tick time).1 = [] := by
      simp [gaugeShifts, Session.tick, fireBackground, List.filterMap_map, Function.comp_def,
        PlayEvent.shift?]
    rw [still]
    rfl
  · unfold tempoAfter tempoChanges
    rw [tick_tempos]
    unfold Session.tick fireBackground
    dsimp only
    split
    · rename_i found
      rw [found]
      rfl
    · rename_i missing
      rw [missing]
      rfl
  · simp [Session.tick, fireBackground]

theorem move (move : Move s events t) : s.Accounts events t := by
  cases move with
  | tick time playing => exact tick s time
  | timed playing near fresh due => exact judgeNote _ _ _ _ _
  | hit playing manual found => exact judgeNote _ _ _ _ _
  | early playing manual missed found => exact apply _ _ _ _ _ _
  | skip => exact of_quiet rfl rfl rfl rfl rfl (by simp [skipJudged])

theorem moves (moves : Moves s events t) : s.Accounts events t := by
  induction moves with
  | none s => exact none s
  | cons first rest ih => exact (move first).append ih

end Accounts

theorem modify_eq (chart : Chart) (modifier : LaneModifier) :
    chart.modify modifier = { chart with notes := (chart.modify modifier).notes } := by
  unfold Chart.modify
  split <;> rfl

/-- The events of a play without restart account for its state: its score and its gauges are those
of entering the judgments into fresh ones, each judgment with the combo that it leads to; the shifts
lead from the first kind of gauge to the active one; and tempo and failure are as the events say. -/
theorem events_account {chart : Chart} {config : PlayConfig} {s₀ : Session}
    (accepted : Session.new chart config = .ok s₀) (calls : List Call)
    (attempt : .restart ∉ calls) :
    let events := (s₀.run calls).1
    let s := (s₀.run calls).2
    let fresh := GaugeLadder.ofElements (GaugeElement.standard config.emptyPoorKills) config.gauge
      chart.total chart.noteCount
    s.score = Score.zero.after (judgments events) ∧
    s.ladder.gauges = (fresh.after (judgments events)).gauges ∧
    (∀ before event after, judgments events = before ++ event :: after →
      event.combo = (Score.zero.after (before ++ [event])).combo) ∧
    Leads config.gauge s.ladder.active (gaugeShifts events) ∧
    s.tempo = tempoAfter chart.initialTempo events ∧
    (s.failed = true ↔ .failed ∈ events) := by
  intro events s fresh
  obtain ⟨-, start⟩ := new_start accepted
  have accounts : s₀.Accounts events s := .moves (run_moves s₀ calls attempt)
  have tempo := accounts.tempo
  have gauges := accounts.gauges
  have failed := accounts.failed
  have score := accounts.score
  have combos := accounts.combos
  have shifts := accounts.shifts
  rw [start, modify_eq] at tempo gauges failed score combos shifts
  exact ⟨score, gauges, combos, shifts, tempo, by simpa [Setup.start] using failed⟩

theorem events_account_of_one_miss :
    let chart := { Chart.empty with
      notes := [⟨1000.0, 0x11, ⟨.p1, .key 1⟩, ⟨1⟩⟩]
      tempoChanges := [⟨500.0, 90.0⟩]
      noteCount := 1 }
    let config := { PlayConfig.standard with gauge := .hazard, autoShift := true }
    let calls := [Call.advance 900.0, .advance 5000.0]
    ∃ s₀, Session.new chart config = .ok s₀ ∧ .restart ∉ calls ∧
      gaugeShifts (s₀.run calls).1 = [(.hazard, .exHard)] ∧
      Leads .hazard (s₀.run calls).2.ladder.active (gaugeShifts (s₀.run calls).1) ∧
      (s₀.run calls).2.tempo = tempoAfter Chart.empty.initialTempo (s₀.run calls).1 := by
  have accepts : PlayConfig.validate
      { PlayConfig.standard with gauge := .hazard, autoShift := true } = .ok () := rfl
  intro chart config calls
  have valid : config.validate = .ok () := accepts
  obtain ⟨s₀, accepted⟩ : ∃ s₀, Session.new chart config = .ok s₀ := by
    unfold Session.new
    rw [valid]
    exact ⟨_, rfl⟩
  have attempt : .restart ∉ calls := by decide
  obtain ⟨-, -, -, shifts, tempo, -⟩ := events_account accepted calls attempt
  refine ⟨s₀, accepted, attempt, ?_, shifts, tempo⟩
  rw [(new_start accepted).2]
  decide +kernel

end Session
end NoteChart
