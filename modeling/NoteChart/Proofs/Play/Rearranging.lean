import NoteChart.Proofs.Modifiers
import NoteChart.Proofs.Play.Move

/-!
Playing with lanes in another order. No rule of play looks at a lane but to compare it with that of
a press, so a session on a rearranged chart, pressed on the lanes where the others went, does the
same on those lanes as a session on the chart as it is.
-/
namespace NoteChart

def PlayEvent.onLanes (moved : Lane → Lane) : PlayEvent → PlayEvent
  | .judge event => .judge { event with lane := moved event.lane }
  | event => event

namespace Session

def Call.onLanes (moved : Lane → Lane) : Call → Call
  | .press lane time => .press (moved lane) time
  | call => call

def rearrange (order : KeyOrder) (modifier : LaneModifier) (s : Session) : Session :=
  { s with setup := { s.setup with
      chart := s.setup.chart.rearrange order
      config := { s.setup.config with modifier } } }

section Rearrange

variable (order : KeyOrder) (modifier : LaneModifier) (s : Session)

def rearranged (outcome : List PlayEvent × Session) : List PlayEvent × Session :=
  (outcome.1.map (PlayEvent.onLanes order.lane), outcome.2.rearrange order modifier)

theorem rearrange_settle :
    (s.rearrange order modifier).settle = rearranged order modifier s.settle := by
  unfold settle rearrange rearranged
  dsimp only
  split_ifs
  · split <;> rfl
  · rfl
  · rfl

theorem rearrange_apply (index? : Option Nat) (lane : Lane) (judgment : Judgment) (diff : Float)
    (empty : Bool) :
    (s.rearrange order modifier).apply index? (order.lane lane) judgment diff empty =
      rearranged order modifier (s.apply index? lane judgment diff empty) := by
  change (_ :: ((s.entered judgment diff empty).rearrange order modifier).settle.1,
    ((s.entered judgment diff empty).rearrange order modifier).settle.2) = _
  rw [rearrange_settle]
  rfl

theorem rearrange_judgeNote (index : Nat) (lane : Lane) (judgment : Judgment) (diff : Float) :
    (s.rearrange order modifier).judgeNote index (order.lane lane) judgment diff =
      rearranged order modifier (s.judgeNote index lane judgment diff) :=
  rearrange_apply order modifier (s.mark index) _ _ _ _ _

def moveEntry (entry : Note × Nat) : Note × Nat := (entry.1.move order, entry.2)

theorem rearrange_window (first : Nat) :
    (s.rearrange order modifier).window first = (s.window first).map (moveEntry order) := by
  change (((s.notes.map (Note.move order)).drop first).take _).zipIdx first = _
  rw [← List.map_drop, ← List.map_take, List.zipIdx_map]
  rfl

theorem rearrange_due? (now : Float) (note : Note) :
    (s.rearrange order modifier).due? now (note.move order) = s.due? now note := by
  unfold due?
  rw [Note.move_time]
  rfl

theorem rearrange_tick (time : Float) :
    (s.rearrange order modifier).tick time = rearranged order modifier (s.tick time) := by
  have still : (s.tick time).1.map (PlayEvent.onLanes order.lane) = (s.tick time).1 := by
    simp [tick, fireBackground, Function.comp_def, PlayEvent.onLanes]
  unfold rearranged
  rw [still]
  rfl

theorem rearrange_sweep (now : Float) (entries : List (Note × Nat)) :
    sweep now (entries.map (moveEntry order)) (s.rearrange order modifier) =
      rearranged order modifier (sweep now entries s) := by
  induction entries generalizing s with
  | nil => rfl
  | cons entry rest ih =>
    obtain ⟨note, index⟩ := entry
    have flag : (s.rearrange order modifier).isJudged index = s.isJudged index := rfl
    rw [List.map_cons, moveEntry, sweep, sweep, Note.move_time, flag, rearrange_due?,
      Note.move_lane]
    split_ifs with far judged
    · rfl
    · exact ih s
    · cases s.due? now note with
      | none => exact ih s
      | some verdict =>
        obtain ⟨judgment, diff⟩ := verdict
        dsimp only
        rw [rearrange_judgeNote]
        have ends : (rearranged order modifier
            (s.judgeNote index note.lane judgment diff)).2.failed =
              (s.judgeNote index note.lane judgment diff).2.failed := rfl
        rw [ends]
        split_ifs
        · rfl
        · change (_ ++ (sweep now _ (rearrange order modifier _)).1,
            (sweep now _ (rearrange order modifier _)).2) = _
          rw [ih]
          simp [rearranged]

theorem rearrange_advance (time : Float) :
    (s.rearrange order modifier).advance time =
      rearranged order modifier (s.advance time) := by
  cases playing : s.failed with
  | true =>
    rw [advance_failed playing, advance_failed (s := s.rearrange order modifier) playing]
    rfl
  | false =>
    let ticked := (s.tick time).2
    have swept : sweep (ticked.rearrange order modifier).clock
        ((ticked.rearrange order modifier).window ticked.cursor)
        (ticked.rearrange order modifier) =
          rearranged order modifier (sweep ticked.clock (ticked.window ticked.cursor) ticked) := by
      rw [rearrange_window]
      exact rearrange_sweep order modifier ticked _ _
    rw [advance_playing playing, advance_playing (s := s.rearrange order modifier) playing,
      rearrange_tick]
    dsimp only
    change (_ ++ (sweep (ticked.rearrange order modifier).clock
        ((ticked.rearrange order modifier).window ticked.cursor)
        (ticked.rearrange order modifier)).1,
      (sweep (ticked.rearrange order modifier).clock
        ((ticked.rearrange order modifier).window ticked.cursor)
        (ticked.rearrange order modifier)).2.skipJudged) = _
    rw [swept]
    exact Prod.ext List.map_append.symm rfl

theorem rearrange_restart :
    (s.rearrange order modifier).restart = s.restart.rearrange order modifier := by
  simp [restart, Setup.start, rearrange, Chart.rearrange]

section Press

variable {order} (distinct : Function.Injective order.lane) (lane : Lane) (time : Float)

include distinct

theorem rearrange_targets (entries : List (Note × Nat)) :
    (s.rearrange order modifier).targets (order.lane lane) time (entries.map (moveEntry order)) =
      s.targets lane time entries := by
  unfold targets
  rw [List.filterMap_map]
  refine List.filterMap_congr ?_
  rintro ⟨note, index⟩ -
  have flag : (s.rearrange order modifier).isJudged index = s.isJudged index := rfl
  -- nowhere else are lanes compared, so only from here on must no two go to the same place
  simp [moveEntry, flag, distinct.eq_iff]

theorem rearrange_inReach :
    (s.rearrange order modifier).inReach (order.lane lane) time = s.inReach lane time := by
  unfold inReach
  rw [rearrange_window]
  exact rearrange_targets modifier s distinct _ _ _

theorem rearrange_press :
    (s.rearrange order modifier).press (order.lane lane) time =
      rearranged order modifier (s.press lane time) := by
  by_cases ignored : s.failed = true ∨ s.setup.config.autoplay = true
  · rw [press_ignored ignored, press_ignored (s := s.rearrange order modifier) ignored]
    rfl
  · simp only [not_or, Bool.not_eq_true] at ignored
    obtain ⟨playing, manual⟩ := ignored
    rw [press_eq_answer playing manual,
      press_eq_answer (s := s.rearrange order modifier) playing manual,
      rearrange_inReach modifier s distinct]
    have windows : (s.rearrange order modifier).setup.windows = s.setup.windows := rfl
    unfold answer
    rw [windows]
    cases hit? s.setup.windows (s.inReach lane time) with
    | some target =>
      dsimp only
      rw [rearrange_judgeNote]
      rfl
    | none =>
      dsimp only
      cases early? s.setup.windows (s.inReach lane time) with
      | some target => exact rearrange_apply order modifier s _ _ _ _ _
      | none => rfl

theorem rearrange_step (call : Call) :
    (s.rearrange order modifier).step (call.onLanes order.lane) =
      rearranged order modifier (s.step call) := by
  cases call with
  | advance time => exact rearrange_advance order modifier s time
  | press lane time => exact rearrange_press modifier s distinct lane time
  | restart => exact congrArg (Prod.mk []) (rearrange_restart order modifier s)

theorem rearrange_run (calls : List Call) :
    (s.rearrange order modifier).run (calls.map (Call.onLanes order.lane)) =
      rearranged order modifier (s.run calls) := by
  induction calls generalizing s with
  | nil => rfl
  | cons call rest ih =>
    rw [List.map_cons, run, rearrange_step modifier s distinct]
    change (_ ++ (run (rearrange order modifier (s.step call).2) _).1,
      (run (rearrange order modifier (s.step call).2) _).2) = _
    rw [ih]
    simp [rearranged, run]

end Press

end Rearrange

/-- What became of two runs, if the second took the same course on moved lanes: the judgments are
on the lanes where those of the first went, and nothing else tells the two apart. -/
structure PlaysAlike (moved : Lane → Lane) (first second : List PlayEvent × Session) :
    Prop where
  events : second.1 = first.1.map (PlayEvent.onLanes moved)
  background : second.2.background = first.2.background
  cursor : second.2.cursor = first.2.cursor
  judged : second.2.judged = first.2.judged
  score : second.2.score = first.2.score
  ladder : second.2.ladder = first.2.ladder
  failed : second.2.failed = first.2.failed
  result : second.2.result = first.2.result

theorem PlaysAlike.of_rearranged {order : KeyOrder} (modifier : LaneModifier)
    {first second : List PlayEvent × Session} (same : second = rearranged order modifier first) :
    PlaysAlike order.lane first second := by
  subst same
  exact ⟨rfl, rfl, rfl, rfl, rfl, rfl, rfl, rfl⟩

def startIn (order : KeyOrder) (chart : Chart) (config : PlayConfig) : Session :=
  Setup.start
    { chart := chart.rearrange order, config, windows := config.windowsFor chart.rank }

theorem startIn_run {order : KeyOrder} (permutes : order.Permutes) (chart : Chart)
    (config : PlayConfig) (calls : List Call) :
    PlaysAlike order.lane
      ((Setup.start { chart, config := { config with modifier := .identity }
                      windows := config.windowsFor chart.rank }).run calls)
      ((startIn order chart config).run (calls.map (Call.onLanes order.lane))) := by
  refine .of_rearranged config.modifier ?_
  rw [← rearrange_run _ _ permutes.lane_injective]
  congr 1
  simp [startIn, Setup.start, rearrange, Chart.rearrange]

theorem new_valid (chart : Chart) {config : PlayConfig} (valid : config.validate = .ok ()) :
    Session.new chart config = .ok (Setup.start
      { chart := chart.modify config.modifier, config, windows := config.windowsFor chart.rank }) := by
  unfold Session.new
  rw [valid]

theorem onLanes_id (calls : List Call) : calls.map (Call.onLanes id) = calls := by
  have same : Call.onLanes id = id := by
    funext call
    cases call <;> rfl
  rw [same, List.map_id]

theorem PlaysAlike.refl (outcome : List PlayEvent × Session) : PlaysAlike id outcome outcome := by
  refine ⟨?_, rfl, rfl, rfl, rfl, rfl, rfl, rfl⟩
  have same : PlayEvent.onLanes id = id := by
    funext event
    cases event <;> rfl
  rw [same, List.map_id]

/-- Whatever a modifier does to the lanes, it is one exchange of keys, and presses that go along
with it bring what they would bring on the chart as it is. The same is true of any other order that
the modifier might give, whatever words it draws and however many of them it passes over. -/
theorem modifiers_commute (chart : Chart) :
    (∀ modifier : LaneModifier, ∃ moved : Equiv.Perm Lane, KeyOrder.MovesKeys moved ∧
      ∀ config : PlayConfig, config.validate = .ok () →
        ∃ plain other, Session.new chart { config with modifier := .identity } = .ok plain ∧
          Session.new chart { config with modifier } = .ok other ∧
          ∀ calls, PlaysAlike moved (plain.run calls)
            (other.run (calls.map (Call.onLanes moved)))) ∧
    ∀ modifier order, LaneModifier.Gives modifier order → ∃ moved : Equiv.Perm Lane, KeyOrder.MovesKeys moved ∧
      ∀ config : PlayConfig, config.validate = .ok () →
        ∃ plain, Session.new chart { config with modifier := .identity } = .ok plain ∧
          ∀ calls, PlaysAlike moved (plain.run calls)
            ((startIn order chart config).run
              (calls.map (Call.onLanes moved))) := by
  constructor
  · intro modifier
    by_cases moves : modifier = .identity
    · subst moves
      refine ⟨1, ⟨fun _ => rfl, fun _ => rfl, fun _ _ _ => rfl⟩, ?_⟩
      intro config valid
      refine ⟨_, _, new_valid chart valid, new_valid chart valid, ?_⟩
      intro calls
      change PlaysAlike id _ (run _ (calls.map (Call.onLanes id)))
      rw [onLanes_id]
      exact .refl _
    · have permutes := modifier.order_permutes
      refine ⟨.ofBijective _ permutes.lane_bijective, permutes.movesKeys, ?_⟩
      intro config valid
      refine ⟨_, _, new_valid chart valid, new_valid chart valid, ?_⟩
      intro calls
      rw [Chart.modify_eq_rearrange moves]
      exact startIn_run permutes chart { config with modifier } calls
  · intro modifier order gives
    have permutes := gives.permutes
    refine ⟨.ofBijective _ permutes.lane_bijective, permutes.movesKeys, ?_⟩
    intro config valid
    exact ⟨_, new_valid chart valid, startIn_run permutes chart config⟩

theorem modifiers_commute_of_two_hits :
    let chart := { Chart.empty with
      notes := [⟨1000.0, 0x11, ⟨.p1, .key 1⟩, ⟨1⟩⟩, ⟨2000.0, 0x16, ⟨.p1, .scratch⟩, ⟨2⟩⟩]
      noteCount := 2 }
    let calls : List Call :=
      [.press (.key .p1 1) 1010.0, .advance 1500.0, .press (.scratch .p1) 1980.0]
    (∃ moved : Equiv.Perm Lane, KeyOrder.MovesKeys moved ∧
      ∃ mirrored, Session.new chart { PlayConfig.standard with modifier := .mirror } = .ok mirrored ∧
        (mirrored.run (calls.map (Call.onLanes moved))).2.score.counts.pgreat = 1 ∧
        (mirrored.run (calls.map (Call.onLanes moved))).2.score.counts.great = 1) ∧
    ∃ moved : Equiv.Perm Lane, KeyOrder.MovesKeys moved ∧
      ((startIn (LaneModifier.shuffled fun _ => 0) chart .standard).run
        (calls.map (Call.onLanes moved))).2.score.exScore = 3 := by
  intro chart calls
  obtain ⟨modified, shuffled⟩ := modifiers_commute chart
  constructor
  · obtain ⟨moved, keys, alike⟩ := modified .mirror
    obtain ⟨plain, mirrored, accepted, accepted', same⟩ := alike .standard rfl
    refine ⟨moved, keys, mirrored, accepted', ?_⟩
    rw [(same calls).score, (new_start accepted).2]
    decide +kernel
  · obtain ⟨moved, keys, alike⟩ := shuffled (.random 7) _ (.shuffled 7 fun _ => 0)
    obtain ⟨plain, accepted, same⟩ := alike .standard rfl
    refine ⟨moved, keys, ?_⟩
    rw [(same calls).score, (new_start accepted).2]
    decide +kernel

end Session
end NoteChart
