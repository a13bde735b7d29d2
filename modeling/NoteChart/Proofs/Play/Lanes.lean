import NoteChart.Proofs.Play.Replaying

/-!
A lane on its own. On a chart that is all in sight, what is judged on a lane depends on nothing but
the clock and the presses on that lane: the judgments on it are those of a play in which the lane is
alone. Lanes share the cursor, the window and the gauges; but the window shows every note without a
judgment, and the gauges judge nothing as long as the play goes on. Combos are counted for all lanes
together, so they are left out.
-/
namespace NoteChart

open Binary64

def JudgeEvent.withoutCombo (event : JudgeEvent) : JudgeEvent := { event with combo := 0 }

def Setup.brought (setup : Setup) (now : Float) (entry : Note × Nat) : JudgeEvent where
  index? := some entry.2
  lane := entry.1.lane
  judgment := (setup.verdict now entry.1).1
  diff := (setup.verdict now entry.1).2
  combo := 0
  empty := false

namespace Session

def judgmentsOn (lane : Lane) (events : List PlayEvent) : List JudgeEvent :=
  ((judgments events).filter (·.lane = lane)).map JudgeEvent.withoutCombo

/-- Does a lane take notice of a call? -/
def Call.reaches (lane : Lane) : Call → Bool
  | .press other _ => other = lane
  | .advance _ | .restart => true

end Session

/-- What there is of a play if there is only one lane. -/
@[ext]
structure LanePlay where
  setup : Setup
  lane : Lane
  clock : Float
  waiting : List (Note × Nat)

namespace LanePlay

def start (setup : Setup) (lane : Lane) : LanePlay where
  setup
  lane
  clock := negInfinity
  waiting := setup.chart.notes.zipIdx.filter (·.1.lane = lane)

def advance (p : LanePlay) (time : Float) : List JudgeEvent × LanePlay :=
  let now := larger p.clock time
  ((p.waiting.filter fun entry => p.setup.isDue now entry.1).map (p.setup.brought now),
    { p with clock := now, waiting := p.waiting.filter fun entry => !p.setup.isDue now entry.1 })

def targets (p : LanePlay) (time : Float) : List Session.Target :=
  p.waiting.map fun entry => ⟨entry.2, time - p.setup.config.inputOffset - entry.1.time⟩

def press (p : LanePlay) (time : Float) : List JudgeEvent × LanePlay :=
  if p.setup.config.autoplay then ([], p)
  else match Session.hit? p.setup.windows (p.targets time) with
    | some target =>
      let judgment := (p.setup.windows.classify target.diff).getD .bad
      ([⟨some target.index, p.lane, judgment, target.diff, 0, false⟩],
        { p with waiting := p.waiting.filter (·.2 ≠ target.index) })
    | none => match Session.early? p.setup.windows (p.targets time) with
      | some target => ([⟨none, p.lane, .poor, target.diff, 0, true⟩], p)
      | none => ([], p)

def step (p : LanePlay) : Session.Call → List JudgeEvent × LanePlay
  | .advance time => p.advance time
  | .press _ time => p.press time
  | .restart => ([], start p.setup p.lane)

def run (p : LanePlay) : List Session.Call → List JudgeEvent × LanePlay
  | [] => ([], p)
  | call :: rest => ((p.step call).1 ++ (run (p.step call).2 rest).1, (run (p.step call).2 rest).2)

end LanePlay

namespace Session

variable {s : Session} {lane : Lane}

theorem judgmentsOn_append (lane : Lane) (events later : List PlayEvent) :
    judgmentsOn lane (events ++ later) = judgmentsOn lane events ++ judgmentsOn lane later := by
  simp [judgmentsOn]

theorem judgmentsOn_eq (lane : Lane) (events : List PlayEvent) :
    judgmentsOn lane events =
      ((judgments events).map JudgeEvent.withoutCombo).filter (·.lane = lane) := by
  unfold judgmentsOn
  rw [List.filter_map]
  rfl

def waiting (s : Session) (lane : Lane) : List (Note × Nat) :=
  s.notes.zipIdx.filter fun entry => entry.1.lane = lane && !s.isJudged entry.2

def onLane (s : Session) (lane : Lane) : LanePlay :=
  ⟨s.setup, lane, s.clock, s.waiting lane⟩

theorem mem_waiting {note : Note} {index : Nat} :
    (note, index) ∈ s.waiting lane ↔
      s.notes[index]? = some note ∧ note.lane = lane ∧ s.isJudged index = false := by
  unfold waiting
  rw [List.mem_filter, List.mk_mem_zipIdx_iff_getElem?]
  simp

theorem start_onLane (setup : Setup) (lane : Lane) :
    setup.start.onLane lane = .start setup lane := by
  refine LanePlay.ext rfl rfl rfl (List.filter_congr ?_)
  rintro ⟨note, index⟩ -
  rw [start_isJudged]
  simp

theorem apply_onLane (index? : Option Nat) (other : Lane) (judgment : Judgment) (diff : Float)
    (empty : Bool) :
    (s.apply index? other judgment diff empty).2.onLane lane = s.onLane lane := by
  simp [onLane, waiting, notes, apply_isJudged]

theorem judgeNote_onLane {index : Nat} (inside : index < s.judged.size) (other : Lane)
    (judgment : Judgment) (diff : Float) :
    (s.judgeNote index other judgment diff).2.onLane lane =
      { s.onLane lane with waiting := (s.waiting lane).filter (·.2 ≠ index) } := by
  refine LanePlay.ext (judgeNote_setup _ _ _ _ _) rfl (judgeNote_clock _ _ _ _ _) ?_
  change (s.judgeNote index other judgment diff).2.waiting lane = _
  unfold waiting
  rw [List.filter_filter, notes, judgeNote_setup]
  refine List.filter_congr ?_
  rintro ⟨note, i⟩ -
  have flag := Aligned.judgeNote_isJudged inside other judgment diff i
  rw [Bool.eq_iff_iff]
  simp [← Bool.not_eq_true, flag]
  tauto

theorem waiting_filter {note : Note} {index : Nat} (found : s.notes[index]? = some note)
    (other : note.lane ≠ lane) : (s.waiting lane).filter (·.2 ≠ index) = s.waiting lane := by
  refine List.filter_eq_self.mpr ?_
  rintro ⟨note', i⟩ waits
  obtain ⟨found', same, -⟩ := mem_waiting.mp waits
  refine decide_eq_true ?_
  rintro rfl
  cases found.symm.trans found'
  exact other same

theorem waiting_of_hit {time : Float} {target : Target}
    (found : hit? s.setup.windows ((s.onLane lane).targets time) = some target) :
    ∃ note, (note, target.index) ∈ s.waiting lane := by
  obtain ⟨⟨note, index⟩, waits, rfl⟩ := List.mem_map.mp (hit?_mem found).1
  exact ⟨note, waits⟩

theorem bringAll_judgments (now : Float) (entries : List (Note × Nat)) (s : Session)
    (lasting : (bringAll now entries s).2.failed = false) :
    (judgments (bringAll now entries s).1).map JudgeEvent.withoutCombo =
      entries.map (s.setup.brought now) := by
  induction entries generalizing s with
  | nil => rfl
  | cons entry rest ih =>
    have playing := playing_of_bringAll lasting
    rw [bringAll_cons playing] at lasting ⊢
    have setup : (s.bring now entry).2.setup = s.setup := judgeNote_setup _ _ _ _ _
    have first : judgments (s.bring now entry).1 = [_] := judgeNote_judgments _ _ _ _ _
    rw [judgments_append, List.map_append, ih _ lasting, setup, first]
    rfl

namespace InSight

theorem bringDue_waiting (inSight : s.InSight) (lane : Lane) {now : Float}
    (lasting : (s.bringDue now).2.failed = false) :
    (s.bringDue now).2.waiting lane =
      (s.waiting lane).filter fun entry => !s.setup.isDue now entry.1 := by
  have setup : (s.bringDue now).2.setup = s.setup := bringAll_setup _ _ _
  unfold waiting
  rw [List.filter_filter, notes, setup]
  refine List.filter_congr ?_
  rintro ⟨note, i⟩ inside
  have flag := inSight.bringDue_isJudged lasting (List.mk_mem_zipIdx_iff_getElem?.mp inside)
  rw [Bool.eq_iff_iff]
  simp [← Bool.not_eq_true, flag]
  tauto

theorem advance_onLane (inSight : s.InSight) (lane : Lane) (playing : s.failed = false)
    {time : Float} (lasting : (s.advance time).2.failed = false) :
    judgmentsOn lane (s.advance time).1 = ((s.onLane lane).advance time).1 ∧
      (s.advance time).2.onLane lane = ((s.onLane lane).advance time).2 := by
  have advanced := inSight.advance_eq playing time
  have now : (s.tick time).2.clock = larger s.clock time := rfl
  rw [now] at advanced
  rw [advanced] at lasting ⊢
  have brought := bringAll_judgments _ _ _ lasting
  constructor
  · rw [judgmentsOn_append, judgmentsOn, tick_judgments, judgmentsOn_eq]
    change _ ++ ((judgments (bringAll _ _ _).1).map _).filter _ = _
    rw [brought, List.filter_map]
    change (List.filter _ (List.filter _ _)).map _ = (List.filter _ (List.filter _ _)).map _
    rw [List.filter_filter, List.filter_filter]
    refine congrArg _ (List.filter_congr ?_)
    rintro ⟨note, i⟩ -
    change (decide (note.lane = lane) && (s.setup.isDue _ note && !s.isJudged i)) =
      (s.setup.isDue _ note && (decide (note.lane = lane) && !s.isJudged i))
    exact Bool.and_left_comm _ _ _
  · have setup : (s.bringDue (larger s.clock time)).2.setup = s.setup := bringAll_setup _ _ _
    exact LanePlay.ext setup rfl rfl (inSight.bringDue_waiting lane lasting)

theorem inReach_eq (inSight : s.InSight) (lane : Lane) (time : Float) :
    s.inReach lane time = (s.onLane lane).targets time := by
  have shown := inSight.window_filter (Nat.sub_le s.cursor lookBack)
    (p := fun entry => entry.1.lane = lane && !s.isJudged entry.2) fun entry waits => by
      simpa using ((Bool.and_eq_true _ _).mp waits).2
  unfold LanePlay.targets onLane waiting
  rw [← shown]
  unfold inReach targets
  rw [← List.filterMap_eq_map, List.filterMap_filter]
  refine List.filterMap_congr ?_
  rintro ⟨note, index⟩ -
  by_cases same : note.lane = lane <;> cases judged : s.isJudged index <;> simp [same, judged]

theorem press_onLane (inSight : s.InSight) (lane : Lane) (playing : s.failed = false)
    (time : Float) :
    judgmentsOn lane (s.press lane time).1 = ((s.onLane lane).press time).1 ∧
      (s.press lane time).2.onLane lane = ((s.onLane lane).press time).2 := by
  unfold LanePlay.press
  by_cases autoplay : s.setup.config.autoplay = true
  · have silent : (s.onLane lane).setup.config.autoplay = true := autoplay
    rw [press_ignored (Or.inr autoplay), if_pos silent]
    exact ⟨rfl, rfl⟩
  · have manual : ¬(s.onLane lane).setup.config.autoplay = true := autoplay
    have windows : (s.onLane lane).setup.windows = s.setup.windows := rfl
    rw [press_eq_answer playing (by simpa using autoplay), if_neg manual, inSight.inReach_eq,
      windows]
    unfold answer
    cases found : hit? s.setup.windows ((s.onLane lane).targets time) with
    | some target =>
      obtain ⟨note, waits⟩ := waiting_of_hit found
      have inside : target.index < s.judged.size :=
        inSight.inside_of_entry (List.mem_of_mem_filter waits)
      dsimp only
      constructor
      · simp [judgmentsOn, JudgeEvent.withoutCombo, onLane]
      · exact judgeNote_onLane inside _ _ _
    | none =>
      dsimp only
      cases early? s.setup.windows ((s.onLane lane).targets time) with
      | some target =>
        dsimp only
        constructor
        · simp [judgmentsOn, JudgeEvent.withoutCombo, onLane]
        · exact apply_onLane _ _ _ _ _
      | none => exact ⟨rfl, rfl⟩

theorem press_elsewhere (inSight : s.InSight) {other : Lane} (different : other ≠ lane)
    (time : Float) :
    judgmentsOn lane (s.press other time).1 = [] ∧
      (s.press other time).2.onLane lane = s.onLane lane := by
  by_cases ignored : s.failed = true ∨ s.setup.config.autoplay = true
  · rw [press_ignored ignored]
    exact ⟨rfl, rfl⟩
  · simp only [not_or, Bool.not_eq_true] at ignored
    rw [press_eq_answer ignored.1 ignored.2, inSight.inReach_eq]
    unfold answer
    cases found : hit? s.setup.windows ((s.onLane other).targets time) with
    | some target =>
      obtain ⟨note, waits⟩ := waiting_of_hit found
      obtain ⟨here, same, -⟩ := mem_waiting.mp waits
      have inside : target.index < s.judged.size :=
        inSight.inside_of_entry (List.mem_of_mem_filter waits)
      dsimp only
      constructor
      · simp [judgmentsOn, different]
      · have untouched := waiting_filter here (same.trans_ne different)
        refine (judgeNote_onLane inside _ _ _).trans ?_
        rw [untouched]
        rfl
    | none =>
      dsimp only
      cases early? s.setup.windows ((s.onLane other).targets time) with
      | some target =>
        dsimp only
        constructor
        · simp [judgmentsOn, different]
        · exact apply_onLane _ _ _ _ _
      | none => exact ⟨rfl, rfl⟩

theorem step_onLane (inSight : s.InSight) (lane : Lane) (playing : s.failed = false) {call : Call}
    (reaches : call.reaches lane = true) (lasting : (s.step call).2.failed = false) :
    judgmentsOn lane (s.step call).1 = ((s.onLane lane).step call).1 ∧
      (s.step call).2.onLane lane = ((s.onLane lane).step call).2 := by
  cases call with
  | advance time => exact inSight.advance_onLane lane playing lasting
  | press other time =>
    have same : other = lane := of_decide_eq_true reaches
    subst same
    exact inSight.press_onLane other playing time
  | restart => exact ⟨rfl, start_onLane s.setup lane⟩

theorem step_elsewhere (inSight : s.InSight) {call : Call} (misses : call.reaches lane = false) :
    judgmentsOn lane (s.step call).1 = [] ∧ (s.step call).2.onLane lane = s.onLane lane := by
  cases call with
  | advance time => cases misses
  | press other time => exact inSight.press_elsewhere (of_decide_eq_false misses) time
  | restart => cases misses

/-- Unless the play fails, a lane goes through a run as it would alone, and the presses on the
other lanes do not reach it. -/
theorem run_onLane (inSight : s.InSight) (lane : Lane) {calls : List Call}
    (attempt : .restart ∉ calls) (lasting : (s.run calls).2.failed = false) :
    judgmentsOn lane (s.run calls).1 =
        ((s.onLane lane).run (calls.filter (Call.reaches lane))).1 ∧
      (s.run calls).2.onLane lane =
        ((s.onLane lane).run (calls.filter (Call.reaches lane))).2 := by
  induction calls generalizing s with
  | nil => exact ⟨rfl, rfl⟩
  | cons call rest ih =>
    rw [List.mem_cons, not_or] at attempt
    have first := step_moves (s := s) (Ne.symm attempt.1)
    have after := run_moves (s.step call).2 rest attempt.2
    have lasting' : (s.step call).2.failed = false := after.playing lasting
    obtain ⟨events, state⟩ := ih (inSight.moves first) attempt.2 lasting
    change judgmentsOn lane ((s.step call).1 ++ ((s.step call).2.run rest).1) = _ ∧
      ((s.step call).2.run rest).2.onLane lane = _
    rw [judgmentsOn_append, events, state]
    cases reaches : call.reaches lane with
    | true =>
      obtain ⟨events', state'⟩ :=
        inSight.step_onLane lane (first.playing lasting') reaches lasting'
      rw [List.filter_cons_of_pos reaches, events', state']
      exact ⟨rfl, rfl⟩
    | false =>
      obtain ⟨events', state'⟩ := inSight.step_elsewhere reaches
      rw [List.filter_cons_of_neg (by simp [reaches]), events', state']
      exact ⟨rfl, rfl⟩

end InSight

/-- On a chart that is all in sight, a lane is judged alike in two runs that differ only by presses
on other lanes, unless one of them fails. -/
theorem lanes_independent {chart : Chart} {config : PlayConfig} {s₀ : Session}
    (numbers : ∀ time ∈ chart.notes.map Note.time, time.isNaN = false)
    (sorted : (chart.notes.map Note.time).Pairwise (· ≤ ·))
    (few : chart.notes.length ≤ lookAhead)
    (accepted : Session.new chart config = .ok s₀) (lane : Lane) {first second : List Call}
    (attempt : .restart ∉ first) (attempt' : .restart ∉ second)
    (same : first.filter (Call.reaches lane) = second.filter (Call.reaches lane))
    (lasting : (s₀.run first).2.failed = false) (lasting' : (s₀.run second).2.failed = false) :
    judgmentsOn lane (s₀.run first).1 = judgmentsOn lane (s₀.run second).1 ∧
      ∀ index note, s₀.notes[index]? = some note → note.lane = lane →
        (s₀.run first).2.isJudged index = (s₀.run second).2.isJudged index := by
  have inSight : s₀.InSight := by
    refine run_inSight numbers sorted accepted [] ?_
    have length := modify_length chart config.modifier
    change s₀.notes.length ≤ s₀.cursor + lookAhead
    rw [(new_start accepted).2]
    change (chart.modify config.modifier).notes.length ≤ 0 + lookAhead
    omega
  obtain ⟨events, state⟩ := inSight.run_onLane lane attempt lasting
  obtain ⟨events', state'⟩ := inSight.run_onLane lane attempt' lasting'
  rw [same, ← events'] at events
  rw [same, ← state'] at state
  refine ⟨events, ?_⟩
  intro index note found on
  have waiting : (s₀.run first).2.waiting lane = (s₀.run second).2.waiting lane :=
    congrArg LanePlay.waiting state
  have notes (calls : List Call) : (s₀.run calls).2.notes[index]? = some note := by
    rw [Session.notes, run_setup]
    exact found
  have waits : (note, index) ∈ (s₀.run first).2.waiting lane ↔
      (note, index) ∈ (s₀.run second).2.waiting lane := by
    rw [waiting]
  rw [mem_waiting, mem_waiting] at waits
  simp only [notes, on, true_and] at waits
  rwa [Bool.eq_iff_iff, ← not_iff_not, Bool.not_eq_true, Bool.not_eq_true]

theorem lanes_independent_of_other_press :
    let chart := { Chart.empty with
      notes := [⟨1000.0, 0x11, ⟨.p1, .key 1⟩, ⟨1⟩⟩, ⟨1200.0, 0x12, ⟨.p1, .key 2⟩, ⟨2⟩⟩,
        ⟨2000.0, 0x11, ⟨.p1, .key 1⟩, ⟨1⟩⟩]
      noteCount := 3 }
    let lane : Lane := .key .p1 1
    ∃ s₀, Session.new chart .standard = .ok s₀ ∧
      let played := s₀.run [.press lane 1010.0, .press (.key .p1 2) 1190.0, .advance 2500.0]
      judgmentsOn lane (s₀.run [.press lane 1010.0, .advance 2500.0]).1 =
        judgmentsOn lane played.1 ∧
      (judgmentsOn lane played.1).map JudgeEvent.judgment = [.pgreat, .poor] := by
  intro chart lane
  obtain ⟨s₀, accepted⟩ : ∃ s₀, Session.new chart .standard = .ok s₀ := ⟨_, rfl⟩
  have start := (new_start accepted).2
  refine ⟨s₀, accepted, ?_, ?_⟩
  · exact (lanes_independent (by decide) (by decide) (by decide) accepted lane
      (by decide) (by decide) (by decide) (by rw [start]; decide +kernel)
      (by rw [start]; decide +kernel)).1
  · rw [start]
    decide +kernel

end Session
end NoteChart
