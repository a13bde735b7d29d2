import NoteChart.Proofs.Fronts
import NoteChart.Proofs.Play.Replaying
import NoteChart.Proofs.Timeline

/-!
The background of a play. A session hands out sounds, pictures and tempo changes each by a cursor of
its own. The clock never goes back, so what a cursor has handed out so far is what it would hand out
at once; for a chart in order that is all that has come by the time of the clock, which is the latest
that the session was told.
-/
namespace NoteChart

open Binary64

namespace Session

variable {s t : Session} {events later : List PlayEvent}

/-- A kind of background event: where a chart lists it, and the cursor that hands it out. -/
structure Track (α : Type) where
  items : Chart → List α
  time : α → Float
  event? : PlayEvent → Option α
  cursor : Background → Cursor
  listed : ∀ chart, (items chart).map time ∈ chart.streams
  hands : ∀ (s : Session) (told : Float), (s.tick told).1.filterMap event? =
    ((cursor s.background).fire time (items s.setup.chart) (s.tick told).2.clock).1
  moves : ∀ (s : Session) (told : Float), cursor (s.tick told).2.background =
    ((cursor s.background).fire time (items s.setup.chart) (s.tick told).2.clock).2
  started : ∀ setup : Setup, cursor setup.start.background = .start
  silent : ∀ event, event.ruling?.isSome = true → event? event = none

namespace Track

def sounds : Track Sound where
  items := Chart.sounds
  time := Sound.time
  event? := PlayEvent.sound?
  cursor := Background.sounds
  listed := by simp [Chart.streams]
  hands := tick_sounds
  moves _ _ := rfl
  started _ := rfl
  silent := by rintro ⟨⟩ <;> simp [PlayEvent.ruling?, PlayEvent.sound?]

def pictures : Track Picture where
  items := Chart.pictures
  time := Picture.time
  event? := PlayEvent.picture?
  cursor := Background.pictures
  listed := by simp [Chart.streams]
  hands := tick_pictures
  moves _ _ := rfl
  started _ := rfl
  silent := by rintro ⟨⟩ <;> simp [PlayEvent.ruling?, PlayEvent.picture?]

def tempos : Track TempoChange where
  items := Chart.tempoChanges
  time := TempoChange.time
  event? := PlayEvent.tempo?
  cursor := Background.tempos
  listed := by simp [Chart.streams]
  hands := tick_tempos
  moves _ _ := rfl
  started _ := rfl
  silent := by rintro ⟨⟩ <;> simp [PlayEvent.ruling?, PlayEvent.tempo?]

end Track

theorem Move.background (move : Move s events t) :
    (∃ told, events = (s.tick told).1 ∧ t = (s.tick told).2) ∨
      t.background = s.background ∧ ∀ event ∈ events, event.ruling?.isSome = true := by
  cases move with
  | tick told playing => exact Or.inl ⟨told, rfl, rfl⟩
  | timed playing near fresh due =>
    exact Or.inr ⟨judgeNote_background _ _ _ _ _, apply_rules _ _ _ _ _ _⟩
  | hit playing manual found =>
    exact Or.inr ⟨judgeNote_background _ _ _ _ _, apply_rules _ _ _ _ _ _⟩
  | early playing manual missed found =>
    exact Or.inr ⟨apply_background _ _ _ _ _ _, apply_rules _ _ _ _ _ _⟩
  | skip => exact Or.inr ⟨rfl, nofun⟩

namespace Track

variable {α : Type} (track : Track α)

structure Handed (events : List PlayEvent) (s : Session) : Prop where
  clock : IsNumber s.clock
  handed : events.filterMap track.event? =
    (Cursor.start.fire track.time (track.items s.setup.chart) s.clock).1
  place : track.cursor s.background =
    (Cursor.start.fire track.time (track.items s.setup.chart) s.clock).2

variable {track}

theorem Handed.start {setup : Setup} (timed : setup.chart.IsTimed) :
    track.Handed [] setup.start := by
  have after : ∀ item ∈ track.items setup.chart, ¬track.time item ≤ negInfinity := by
    intro item inside early
    have nonneg := ((timed.streams _ (track.listed _)).2 _ (List.mem_map_of_mem inside)).1
    exact absurd (Binary64.le_trans nonneg early) (by decide)
  have none : (track.items setup.chart).takeWhile
      (fun item => track.time item ≤ negInfinity) = [] := by
    cases items : track.items setup.chart with
    | nil => rfl
    | cons item rest =>
      rw [items] at after
      exact List.takeWhile_cons_of_neg (by simpa using after item List.mem_cons_self)
  have first : Cursor.start.fire track.time (track.items setup.chart) negInfinity =
      ([], .start) := by
    simp [Cursor.fire, Cursor.start, none]
  exact ⟨isNumber_negInfinity, (congrArg Prod.fst first).symm,
    (track.started setup).trans (congrArg Prod.snd first).symm⟩

theorem Handed.move (handed : track.Handed events s) (move : Move s later t) :
    track.Handed (events ++ later) t := by
  have clock := move.isNumber_clock handed.clock
  rcases move.background with ⟨told, rfl, rfl⟩ | ⟨same, rules⟩
  · have order : s.clock ≤ (s.tick told).2.clock := le_larger handed.clock told
    obtain ⟨both, place⟩ := Cursor.start.fire_fire track.time (track.items s.setup.chart) order
    refine ⟨clock, ?_, ?_⟩
    · rw [List.filterMap_append, track.hands, handed.handed, handed.place, move.same_setup]
      exact both
    · rw [track.moves, handed.place, move.same_setup]
      exact place
  · have none : later.filterMap track.event? = [] :=
      List.filterMap_eq_nil_iff.mpr fun event inside => track.silent event (rules event inside)
    have still : t.clock = s.clock := congrArg Background.clock same
    refine ⟨clock, ?_, ?_⟩
    · rw [List.filterMap_append, none, List.append_nil, move.same_setup, still]
      exact handed.handed
    · rw [same, move.same_setup, still]
      exact handed.place

theorem Handed.moves (handed : track.Handed events s) (moves : Moves s later t) :
    track.Handed (events ++ later) t := by
  induction moves generalizing events with
  | none s => rwa [List.append_nil]
  | cons first rest ih =>
    rw [← List.append_assoc]
    exact ih (handed.move first)

variable {setup : Setup} (timed : setup.chart.IsTimed)

include timed

theorem on_time (moves : Moves setup.start events s) :
    events.filterMap track.event? =
      (track.items setup.chart).filter fun item => track.time item ≤ s.clock := by
  have handed : track.Handed events s := (Handed.start timed).moves moves
  obtain ⟨sorted, -⟩ := timed.streams _ (track.listed _)
  have first : (track.items setup.chart).Pairwise fun a b =>
      decide (track.time b ≤ s.clock) = true → decide (track.time a ≤ s.clock) = true := by
    refine (List.pairwise_map.mp sorted).imp ?_
    intro a b order due
    exact decide_eq_true (Binary64.le_trans order (of_decide_eq_true due))
  rw [← takeWhile_eq_filter first]
  rw [handed.handed, moves.same_setup]
  rfl

theorem complete (moves : Moves setup.start events s) (reached : setup.chart.duration ≤ s.clock) :
    events.filterMap track.event? = track.items setup.chart := by
  rw [on_time timed moves, List.filter_eq_self]
  intro item inside
  have before := ((timed.streams _ (track.listed _)).2 _ (List.mem_map_of_mem inside)).2
  exact decide_eq_true (Binary64.le_trans before reached)

end Track

/-- A time, not a NaN, to which a session without a failure is told to move its clock. -/
def Hears (s : Session) (calls : List Call) (time : Float) : Prop :=
  time.isNaN = false ∧
    ∃ before after, calls = before ++ .advance time :: after ∧ (s.run before).2.failed = false

def IsLatest (heard : Float → Prop) (clock : Float) : Prop :=
  (∀ time, heard time → time ≤ clock) ∧
    (heard clock ∨ clock = negInfinity ∧ ∀ time, ¬heard time)

theorem hears_append {calls : List Call} {call : Call} {time : Float} :
    s.Hears (calls ++ [call]) time ↔ s.Hears calls time ∨
      time.isNaN = false ∧ call = .advance time ∧ (s.run calls).2.failed = false := by
  constructor
  · rintro ⟨number, before, after, split, playing⟩
    rcases List.eq_nil_or_concat after with rfl | ⟨front, last, rfl⟩
    · obtain ⟨rfl, same⟩ := List.append_inj' split rfl
      exact Or.inr ⟨number, (List.cons.inj same).1, playing⟩
    · rw [List.concat_eq_append, ← List.cons_append, ← List.append_assoc] at split
      obtain ⟨rfl, -⟩ := List.append_inj' split rfl
      exact Or.inl ⟨number, before, front, rfl, playing⟩
  · rintro (⟨number, before, after, rfl, playing⟩ | ⟨number, rfl, playing⟩)
    · exact ⟨number, before, after ++ [call], by simp, playing⟩
    · exact ⟨number, calls, [], rfl, playing⟩

theorem IsLatest.told {heard : Float → Prop} {clock time : Float} (number : IsNumber clock)
    (latest : IsLatest heard clock) (told : IsNumber time) :
    IsLatest (fun x => heard x ∨ x = time) (larger clock time) := by
  obtain ⟨least, reached⟩ := latest
  refine ⟨?_, ?_⟩
  · rintro x (before | rfl)
    · exact Binary64.le_trans (least x before) (le_larger number time)
    · exact le_larger_right number told
  · rcases reached with before | ⟨rfl, -⟩
    · rcases larger_cases number told with same | same
      · rw [same]
        exact Or.inl (Or.inl before)
      · exact Or.inl (Or.inr same)
    · exact Or.inl (Or.inr (larger_negInfinity told))

theorem IsLatest.congr {heard heard' : Float → Prop} {clock : Float}
    (latest : IsLatest heard clock) (same : ∀ time, heard' time ↔ heard time) :
    IsLatest heard' clock := by
  have equal : heard' = heard := funext fun time => propext (same time)
  rwa [equal]

theorem advance_clock (playing : s.failed = false) (time : Float) :
    (s.advance time).2.clock = larger s.clock time :=
  congrArg Background.clock (advance_background playing time)

theorem clock_isLatest (setup : Setup) (calls : List Call) (attempt : .restart ∉ calls) :
    IsLatest (setup.start.Hears calls) (setup.start.run calls).2.clock := by
  induction calls using List.reverseRecOn with
  | nil =>
    have silence : ∀ time, ¬setup.start.Hears [] time := by
      rintro time ⟨-, before, after, split, -⟩
      simp at split
    exact ⟨fun time heard => absurd heard (silence time), Or.inr ⟨rfl, silence⟩⟩
  | append_singleton calls call ih =>
    simp only [List.mem_append, List.mem_singleton, not_or] at attempt
    have latest := ih attempt.1
    have number := run_clock setup.start calls isNumber_negInfinity
    have last : (setup.start.run (calls ++ [call])).2 =
        ((setup.start.run calls).2.step call).2 := by
      rw [run_append]
      rfl
    rw [last]
    have still (same : ((setup.start.run calls).2.step call).2.clock =
          (setup.start.run calls).2.clock)
        (unheard : ∀ time, IsNumber time → call = .advance time →
          (setup.start.run calls).2.failed = true) :
        IsLatest (setup.start.Hears (calls ++ [call]))
          ((setup.start.run calls).2.step call).2.clock := by
      rw [same]
      refine latest.congr fun time => ?_
      rw [hears_append]
      refine ⟨?_, Or.inl⟩
      rintro (before | ⟨told, now, playing⟩)
      · exact before
      · rw [unheard time told now] at playing
        cases playing
    cases call with
    | advance time =>
      by_cases playing : (setup.start.run calls).2.failed = false
      · have clock := advance_clock playing time
        by_cases told : IsNumber time
        · change IsLatest _ ((setup.start.run calls).2.advance time).2.clock
          rw [clock]
          refine (latest.told number told).congr fun x => ?_
          rw [hears_append]
          refine or_congr_right ⟨?_, ?_⟩
          · rintro ⟨-, same, -⟩
            exact (Call.advance.inj same).symm
          · rintro rfl
            exact ⟨told, rfl, playing⟩
        · refine still (clock.trans (larger_nan number told)) fun x number now => ?_
          cases now
          exact absurd number told
      · have ended : (setup.start.run calls).2.failed = true := by simpa using playing
        exact still (congrArg (·.2.clock) (advance_failed ended time)) fun _ _ _ => ended
    | press lane time =>
      exact still (congrArg Background.clock (press_background _ lane time)) nofun
    | restart => exact absurd rfl attempt.2

theorem modify_isTimed {chart : Chart} (timed : chart.IsTimed) (modifier : LaneModifier) :
    (chart.modify modifier).IsTimed := by
  have same : (chart.modify modifier).streams = chart.streams := by
    unfold Chart.streams
    rw [modify_times, modify_eq]
  rw [modify_eq] at same ⊢
  exact ⟨timed.forward, by rw [same]; exact timed.streams⟩

structure HandsOutAll (chart : Chart) (events : List PlayEvent) : Prop where
  sounds : events.filterMap PlayEvent.sound? = chart.sounds
  pictures : events.filterMap PlayEvent.picture? = chart.pictures
  tempos : events.filterMap PlayEvent.tempo? = chart.tempoChanges

theorem run_complete {setup : Setup} (timed : setup.chart.IsTimed) {calls : List Call}
    (attempt : .restart ∉ calls)
    (lasting : (setup.start.run (calls ++ [.advance setup.chart.duration])).2.failed = false) :
    HandsOutAll setup.chart
      (setup.start.run (calls ++ [.advance setup.chart.duration])).1 := by
  have moves : Moves setup.start _ _ :=
    run_moves setup.start (calls ++ [.advance setup.chart.duration]) (by simpa using attempt)
  have number : IsNumber setup.chart.duration := (isNumber_of_le timed.forward).2
  have clock : IsNumber (setup.start.run calls).2.clock :=
    run_clock setup.start calls isNumber_negInfinity
  have reached : setup.chart.duration ≤
      (setup.start.run (calls ++ [.advance setup.chart.duration])).2.clock := by
    rw [run_append] at lasting ⊢
    change ((setup.start.run calls).2.advance setup.chart.duration).2.failed = false at lasting
    have playing := ((setup.start.run calls).2.advance_moves setup.chart.duration).playing lasting
    change _ ≤ ((setup.start.run calls).2.advance setup.chart.duration).2.clock
    rw [advance_clock playing]
    exact le_larger_right clock number
  exact ⟨Track.sounds.complete timed moves reached, Track.pictures.complete timed moves reached,
    Track.tempos.complete timed moves reached⟩

/-- The background is on time. In the course of a play without restart the sounds, pictures and tempo
changes of a compiled chart are handed out in order, each once, as the clock comes to it; the last
tempo change is in effect; and the clock shows the latest time that the session was told before it
failed. A replay that does not fail hands out all of them. A text has no more bytes than a word can
count. -/
theorem background_on_time {arithmetic : Chart.Arithmetic} {text : String} {chart : Chart}
    {config : PlayConfig} {s₀ : Session} (compiled : Chart.ofText arithmetic text = .ok chart) (size : text.utf8ByteSize < UInt64.size)
    (accepted : Session.new chart config = .ok s₀) :
    (∀ calls, .restart ∉ calls →
      let events := (s₀.run calls).1
      let s := (s₀.run calls).2
      events.filterMap PlayEvent.sound? = chart.sounds.filter (fun e => e.time ≤ s.clock) ∧
      events.filterMap PlayEvent.picture? = chart.pictures.filter (fun e => e.time ≤ s.clock) ∧
      events.filterMap PlayEvent.tempo? = chart.tempoChanges.filter (fun e => e.time ≤ s.clock) ∧
      s.tempo = (((chart.tempoChanges.filter fun e => e.time ≤ s.clock).getLast?).map
        TempoChange.bpm).getD chart.initialTempo ∧
      IsLatest (s₀.Hears calls) s.clock) ∧
    ∀ inputs, ∃ events final, replay chart config inputs = .ok (events, final) ∧
      (final.failed = false → HandsOutAll chart events) := by
  obtain ⟨-, rfl⟩ := new_start accepted
  have timed := modify_isTimed (Chart.ofText_isTimed compiled size) config.modifier
  have sounds : (chart.modify config.modifier).sounds = chart.sounds := by rw [modify_eq]
  have pictures : (chart.modify config.modifier).pictures = chart.pictures := by rw [modify_eq]
  have tempos : (chart.modify config.modifier).tempoChanges = chart.tempoChanges := by
    rw [modify_eq]
  refine ⟨?_, ?_⟩
  · intro calls attempt events s
    have moves : Moves _ events s := run_moves _ calls attempt
    have heard : events.filterMap PlayEvent.sound? = _ := Track.sounds.on_time timed moves
    have seen : events.filterMap PlayEvent.picture? = _ := Track.pictures.on_time timed moves
    have changed : events.filterMap PlayEvent.tempo? = _ := Track.tempos.on_time timed moves
    refine ⟨heard.trans ?_, seen.trans ?_, changed.trans ?_, ?_, clock_isLatest _ calls attempt⟩
    · exact congrArg (List.filter _) sounds
    · exact congrArg (List.filter _) pictures
    · exact congrArg (List.filter _) tempos
    · have tempo := (Accounts.moves moves).tempo
      rw [tempo, tempoAfter, tempoChanges, changed]
      change ((List.filter _ (chart.modify config.modifier).tempoChanges).getLast?.map _).getD
        (chart.modify config.modifier).initialTempo = _
      rw [tempos, modify_eq]
      rfl
  · intro inputs
    obtain ⟨calls, attempt, played⟩ := replay_run accepted inputs
    refine ⟨_, _, played, ?_⟩
    intro lasting
    obtain ⟨heard, seen, changed⟩ := run_complete timed attempt lasting
    exact ⟨heard.trans sounds, seen.trans pictures, changed.trans tempos⟩

theorem background_on_time_of_two_sounds :
    let calls := [Call.advance 5000.0]
    ∃ chart s₀, Chart.ofText .checked "#BPM 120\n#00003:3C\n#00101:01\n#00201:02" = .ok chart ∧
      "#BPM 120\n#00003:3C\n#00101:01\n#00201:02".utf8ByteSize < UInt64.size ∧
      Session.new chart .standard = .ok s₀ ∧ .restart ∉ calls ∧
      chart.sounds = [⟨4000.0, ⟨1⟩⟩, ⟨8000.0, ⟨2⟩⟩] ∧ (s₀.run calls).2.clock = 5000.0 ∧
      (s₀.run calls).1.filterMap PlayEvent.sound? = [⟨4000.0, ⟨1⟩⟩] ∧
      (s₀.run calls).2.tempo = 60.0 ∧
      ∃ events final, replay chart .standard [] = .ok (events, final) ∧
        (final.failed = false → HandsOutAll chart events) := by
  intro calls
  have size : "#BPM 120\n#00003:3C\n#00101:01\n#00201:02".utf8ByteSize < UInt64.size := by decide
  have attempt : .restart ∉ calls := by decide
  obtain ⟨chart, compiled, sounds, tempos⟩ : ∃ chart,
      Chart.ofText .checked "#BPM 120\n#00003:3C\n#00101:01\n#00201:02" = .ok chart ∧
      chart.sounds = [⟨4000.0, ⟨1⟩⟩, ⟨8000.0, ⟨2⟩⟩] ∧ chart.tempoChanges = [⟨0.0, 60.0⟩] := by
    have heard : (Chart.ofSource Chart.slowed).sounds = [⟨4000.0, ⟨1⟩⟩, ⟨8000.0, ⟨2⟩⟩] :=
      congrArg (fun walk => walk.1.filterMap Event.sound?) Chart.slowed_timeline
    have changed : (Chart.ofSource Chart.slowed).tempoChanges = [⟨0.0, 60.0⟩] :=
      congrArg (fun walk => walk.1.filterMap Event.tempo?) Chart.slowed_timeline
    obtain ⟨md5, sha256, made⟩ :=
      Chart.ofText_of_parse .checked Chart.parse_slowed Chart.slowed_fits
    exact ⟨_, made, heard, changed⟩
  obtain ⟨s₀, accepted⟩ : ∃ s₀, Session.new chart .standard = .ok s₀ := ⟨_, rfl⟩
  obtain ⟨paced, whole⟩ := background_on_time compiled size accepted
  obtain ⟨heard, -, -, tempo, -⟩ := paced calls attempt
  obtain ⟨events, final, played, all⟩ := whole []
  have clock : (s₀.run calls).2.clock = 5000.0 := by
    have playing : s₀.failed = false := by rw [(new_start accepted).2]; rfl
    have fresh : s₀.clock = negInfinity := by rw [(new_start accepted).2]; rfl
    have moved : (s₀.run calls).2.clock = larger s₀.clock 5000.0 := advance_clock playing 5000.0
    rw [moved, fresh, larger_negInfinity (by decide)]
  have first : List.filter (fun e => e.time ≤ 5000.0) [(⟨4000.0, ⟨1⟩⟩ : Sound), ⟨8000.0, ⟨2⟩⟩] =
      [⟨4000.0, ⟨1⟩⟩] := by decide +kernel
  have slow : List.filter (fun e => e.time ≤ 5000.0) [(⟨0.0, 60.0⟩ : TempoChange)] =
      [⟨0.0, 60.0⟩] := by decide +kernel
  rw [clock, sounds, first] at heard
  rw [clock, tempos, slow] at tempo
  exact ⟨chart, s₀, compiled, size, accepted, attempt, sounds, clock, heard, tempo, events, final,
    played, all⟩

end Session
end NoteChart
