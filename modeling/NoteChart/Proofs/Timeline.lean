import NoteChart.Chart.Compile
import NoteChart.Proofs.Measure

/-!
Time on the way through a chart. The clock starts at 0 and never goes back, since every span that it
passes is a number that is not negative: tempos are finite and measured above the tempo floor, and
the part of a measure from one cell to the next is not negative. So all events come in the order of
their times, and none is later than the end.
-/
namespace NoteChart

open Binary64

theorem beatSpan_pos {bpm : Float} (finite : bpm.isFinite = true) :
    0.0 < beatSpan bpm ∧ (beatSpan bpm).isFinite = true := by
  have number := isNumber_of_finite finite
  have floor : IsNumber tempoFloor := by decide
  have above : tempoFloor ≤ Binary64.larger bpm tempoFloor := le_larger_right number floor
  have finite' : (Binary64.larger bpm tempoFloor).isFinite = true := by
    rcases larger_cases number floor with same | same
    · rwa [same]
    · rw [same]
      decide
  have positive : 0.0 < Binary64.larger bpm tempoFloor :=
    Binary64.lt_of_lt_of_le (by decide) above
  have slow : beatSpan bpm ≤ 60000.0 / tempoFloor :=
    Binary64.div_le_div_left (by decide) (by decide) (by decide) above
  have fast : 60000.0 / greatest ≤ beatSpan bpm :=
    Binary64.div_le_div_left (by decide) (by decide) positive (le_greatest finite')
  have some_time : (0.0 : Float) < 60000.0 / greatest := by decide
  exact ⟨Binary64.lt_of_lt_of_le some_time fast,
    isFinite_of_between fast slow (by decide) (by decide)⟩

theorem measureSpan_nonneg {part length bpm : Float} (forward : 0.0 ≤ part)
    (positive : 0.0 < length) (long : length.isFinite = true) (finite : bpm.isFinite = true) :
    0.0 ≤ measureSpan part length bpm := by
  obtain ⟨beat, beat_finite⟩ := beatSpan_pos finite
  have beats : 0.0 ≤ part * 4.0 := Binary64.mul_nonneg forward (by decide) (by decide)
  have stretched := Binary64.mul_nonneg beats positive long
  exact Binary64.mul_nonneg stretched beat beat_finite

theorem stopSpan_nonneg {ticks bpm : Float} (ticks_finite : ticks.isFinite = true)
    (finite : bpm.isFinite = true) : 0.0 ≤ stopSpan ticks bpm := by
  obtain ⟨beat, beat_finite⟩ := beatSpan_pos finite
  have zero : 0.0 ≤ Binary64.larger ticks 0.0 :=
    le_larger_right (isNumber_of_finite ticks_finite) isNumber_zero
  have measures : 0.0 ≤ Binary64.larger ticks 0.0 / ticksPerMeasure :=
    Binary64.div_nonneg zero (by decide) (by decide)
  have beats := Binary64.mul_nonneg (y := 4.0) measures (by decide) (by decide)
  exact Binary64.mul_nonneg beats beat beat_finite

namespace Event

def time : Event → Float
  | .note n => n.time
  | .sound s => s.time
  | .picture p => p.time
  | .tempo c => c.time
  | .freeze f => f.time

def IsOverBy (finish : Float) : Event → Prop
  | .freeze f => 0.0 ≤ f.duration ∧ f.time + f.duration ≤ finish
  | _ => True

theorem IsOverBy.mono {event : Event} {x y : Float} (ended : event.IsOverBy x) (later : x ≤ y) :
    event.IsOverBy y := by
  cases event with
  | freeze f => exact ⟨ended.1, Binary64.le_trans ended.2 later⟩
  | note n => trivial
  | sound s => trivial
  | picture p => trivial
  | tempo c => trivial

end Event

structure Clock.IsSound (clock : Clock) : Prop where
  nonneg : 0.0 ≤ clock.time
  tempo : clock.bpm.isFinite = true

/-- From one clock to another, with the events on the way in the order of their times. -/
structure Passage (start : Clock) (events : List Event) (finish : Clock) : Prop where
  forward : start.time ≤ finish.time
  tempo : finish.bpm.isFinite = true
  sorted : events.Pairwise fun a b => a.time ≤ b.time
  after : ∀ e ∈ events, start.time ≤ e.time
  before : ∀ e ∈ events, e.time ≤ finish.time
  ended : ∀ e ∈ events, e.IsOverBy finish.time

namespace Passage

variable {start middle finish : Clock} {events later : List Event}

theorem isSound (passage : Passage start events finish) (sound : start.IsSound) :
    finish.IsSound :=
  ⟨Binary64.le_trans sound.nonneg passage.forward, passage.tempo⟩

theorem append (first : Passage start events middle) (second : Passage middle later finish) :
    Passage start (events ++ later) finish where
  forward := Binary64.le_trans first.forward second.forward
  tempo := second.tempo
  sorted := by
    refine List.pairwise_append.mpr ⟨first.sorted, second.sorted, ?_⟩
    intro a ha b hb
    exact Binary64.le_trans (first.before a ha) (second.after b hb)
  after := by
    intro e inside
    rcases List.mem_append.mp inside with inside | inside
    · exact first.after e inside
    · exact Binary64.le_trans first.forward (second.after e inside)
  before := by
    intro e inside
    rcases List.mem_append.mp inside with inside | inside
    · exact Binary64.le_trans (first.before e inside) second.forward
    · exact second.before e inside
  ended := by
    intro e inside
    rcases List.mem_append.mp inside with inside | inside
    · exact (first.ended e inside).mono second.forward
    · exact second.ended e inside

theorem none (forward : start.time ≤ finish.time) (tempo : finish.bpm.isFinite = true) :
    Passage start [] finish where
  forward := forward
  tempo := tempo
  sorted := List.Pairwise.nil
  after := by simp
  before := by simp
  ended := by simp

theorem single {event : Event} (after : start.time ≤ event.time)
    (before : event.time ≤ finish.time) (ended : event.IsOverBy finish.time)
    (tempo : finish.bpm.isFinite = true) : Passage start [event] finish where
  forward := Binary64.le_trans after before
  tempo := tempo
  sorted := List.pairwise_singleton _ _
  after := by simpa using after
  before := by simpa using before
  ended := by simpa using ended

end Passage

/-- What the walk relies on: all tempos and stops are finite, and the rows can be counted. -/
structure Source.IsSound (source : Source) : Prop where
  tempo : ∀ id bpm, source.tempo? id = some bpm → bpm.isFinite = true
  stop : ∀ id ticks, source.stop? id = some ticks → ticks.isFinite = true
  rows : ∀ measure, AreShort (source.rows measure)

theorem Source.isSound_of_parse {text : String} {source : Source}
    (accepted : Source.parse text = .ok source) (size : text.utf8ByteSize < UInt64.size) :
    source.IsSound := by
  have sound := Source.parse_isSound accepted
  refine ⟨fun id bpm found => sound _ (tempo?_mem found),
    fun id ticks found => sound _ (stop?_mem found), ?_⟩
  intro measure row inside
  obtain ⟨statement, said, here⟩ := List.mem_filterMap.mp inside
  rw [Statement.row?_eq_some.mp here] at said
  exact Nat.lt_of_le_of_lt (sound _ said) size

theorem Source.initialTempo_isFinite (source : Source) : source.initialTempo.isFinite = true := by
  unfold Source.initialTempo
  cases read : (source.header? "BPM").bind fun v => Decimal.readFinite? v.toList with
  | none => decide
  | some bpm =>
    obtain ⟨v, -, read⟩ := Option.bind_eq_some_iff.mp read
    exact Decimal.readFinite?_isFinite read

variable {source : Source} {clock : Clock}

theorem pass_forward {span : Float} (sound : clock.IsSound) (nonneg : 0.0 ≤ span) :
    clock.time ≤ (clock.pass span).time :=
  Binary64.le_add_of_nonneg sound.nonneg nonneg

theorem place_passage (source_sound : source.IsSound) (cell : Cell) (sound : clock.IsSound) :
    Passage clock (cell.place source clock).1 (cell.place source clock).2 := by
  have still : clock.time ≤ clock.time := Binary64.le_refl (isNumber_of_le sound.nonneg).2
  unfold Cell.place
  cases cell.content with
  | note lane => exact .single still still trivial sound.tempo
  | sound => exact .single still still trivial sound.tempo
  | image layer => exact .single still still trivial sound.tempo
  | tempoValue =>
    have finite : (Float.ofNat cell.value.toNat).isFinite = true :=
      ofNat_isFinite (cell.value.toNat_lt.trans (by decide))
    exact .single still still trivial finite
  | tempoName =>
    dsimp only
    cases named : source.tempo? ⟨cell.value⟩ with
    | none => exact .none still sound.tempo
    | some bpm => exact .single still still trivial (source_sound.tempo _ _ named)
  | stopName =>
    dsimp only
    cases named : source.stop? ⟨cell.value⟩ with
    | none => exact .none still sound.tempo
    | some ticks =>
      have nonneg := stopSpan_nonneg (source_sound.stop _ _ named) sound.tempo
      have forward := pass_forward sound nonneg
      have ended : Event.IsOverBy (clock.pass (stopSpan ticks clock.bpm)).time
          (.freeze ⟨clock.time, stopSpan ticks clock.bpm⟩) :=
        ⟨nonneg, Binary64.le_refl (isNumber_of_le forward).2⟩
      exact .single still forward ended sound.tempo
  | measureLength => exact .none still sound.tempo
  | nothing => exact .none still sound.tempo

theorem measure_passage {part length : Float} (sound : clock.IsSound) (forward : 0.0 ≤ part)
    (positive : 0.0 < length) (long : length.isFinite = true) :
    Passage clock [] (clock.pass (measureSpan part length clock.bpm)) :=
  .none (pass_forward sound (measureSpan_nonneg forward positive long sound.tempo)) sound.tempo

theorem walkCells_passage {length : Float} (source_sound : source.IsSound)
    (positive : 0.0 < length) (long : length.isFinite = true) (cells : List Cell)
    (position : Float) (sound : clock.IsSound) (inside : ∀ cell ∈ cells, cell.IsInside)
    (sorted : cells.Pairwise fun a b => a.position ≤ b.position)
    (place : position.isFinite = true ∧ position ≤ 1.0)
    (ahead : ∀ cell ∈ cells, position ≤ cell.position) :
    Passage clock (walkCells source length cells position clock).1
      (walkCells source length cells position clock).2 := by
  induction cells generalizing position clock with
  | nil =>
    exact measure_passage sound (Binary64.sub_nonneg place.2 place.1 (by decide)) positive long
  | cons cell rest ih =>
    have here := inside cell List.mem_cons_self
    have part : 0.0 ≤ cell.position - position :=
      Binary64.sub_nonneg (ahead cell List.mem_cons_self) place.1 here.isFinite
    have arrival := measure_passage sound part positive long
    have placing := place_passage source_sound cell (arrival.isSound sound)
    have ordered := List.pairwise_cons.mp sorted
    have walk := ih cell.position (placing.isSound (arrival.isSound sound))
      (fun c given => inside c (List.mem_cons_of_mem cell given)) ordered.2
      ⟨here.isFinite, here.2⟩ ordered.1
    exact (arrival.append placing).append walk

theorem walkMeasure_passage (source_sound : source.IsSound) (measure : Nat)
    (sound : clock.IsSound) :
    Passage clock (walkMeasure source measure clock).1 (walkMeasure source measure clock).2 := by
  have short := source_sound.rows measure
  obtain ⟨positive, long⟩ := measureLength_pos (source.rows measure)
  have inside := measureCells_isInside short
  exact walkCells_passage source_sound positive long _ 0.0 sound inside
    (measureCells_sorted short) ⟨by decide, by decide⟩ fun cell given => (inside cell given).1

theorem walkMeasures_passage (source_sound : source.IsSound) (measures : List Nat)
    (sound : clock.IsSound) :
    Passage clock (walkMeasures source measures clock).1
      (walkMeasures source measures clock).2 := by
  induction measures generalizing clock with
  | nil => exact .none (Binary64.le_refl (isNumber_of_le sound.nonneg).2) sound.tempo
  | cons measure rest ih =>
    have first := walkMeasure_passage source_sound measure sound
    exact first.append (ih (first.isSound sound))

theorem timeline_passage (source_sound : source.IsSound) :
    Passage ⟨0.0, source.initialTempo⟩ source.timeline.1 source.timeline.2 :=
  walkMeasures_passage source_sound source.measures
    ⟨Binary64.le_refl isNumber_zero, source.initialTempo_isFinite⟩

structure Event.Kind (α : Type) where
  pick? : Event → Option α
  time : α → Float
  same : ∀ e a, pick? e = some a → e.time = time a

namespace Event.Kind

def notes : Kind Note where
  pick? := Event.note?
  time := Note.time
  same e a found := by cases e <;> cases found; rfl

def sounds : Kind Sound where
  pick? := Event.sound?
  time := Sound.time
  same e a found := by cases e <;> cases found; rfl

def pictures : Kind Picture where
  pick? := Event.picture?
  time := Picture.time
  same e a found := by cases e <;> cases found; rfl

def tempoChanges : Kind TempoChange where
  pick? := Event.tempo?
  time := TempoChange.time
  same e a found := by cases e <;> cases found; rfl

def freezes : Kind Freeze where
  pick? := Event.freeze?
  time := Freeze.time
  same e a found := by cases e <;> cases found; rfl

def times {α : Type} (kind : Kind α) (events : List Event) : List Float :=
  (events.filterMap kind.pick?).map kind.time

theorem mem_times {α : Type} {kind : Kind α} {events : List Event} {t : Float}
    (inside : t ∈ kind.times events) : ∃ e ∈ events, e.time = t := by
  obtain ⟨a, given, rfl⟩ := List.mem_map.mp inside
  obtain ⟨e, here, found⟩ := List.mem_filterMap.mp given
  exact ⟨e, here, kind.same e a found⟩

end Event.Kind

theorem Passage.stream {α : Type} {start finish : Clock} {events : List Event}
    (passage : Passage start events finish) (kind : Event.Kind α) :
    (kind.times events).Pairwise (· ≤ ·) ∧
      ∀ t ∈ kind.times events, start.time ≤ t ∧ t ≤ finish.time := by
  constructor
  · refine List.pairwise_map.mpr (List.Pairwise.filterMap kind.pick? ?_ passage.sorted)
    intro e e' below a found a' found'
    rw [← kind.same e a found, ← kind.same e' a' found']
    exact below
  · intro t inside
    obtain ⟨e, here, rfl⟩ := Event.Kind.mem_times inside
    exact ⟨passage.after e here, passage.before e here⟩

namespace Chart

def streams (chart : Chart) : List (List Float) :=
  [chart.notes.map Note.time, chart.sounds.map Sound.time, chart.pictures.map Picture.time,
    chart.tempoChanges.map TempoChange.time, chart.freezes.map Freeze.time]

theorem streams_of_kinds {source : Source} {P : List Float → Prop}
    (each : ∀ {α : Type} (kind : Event.Kind α), P (kind.times source.timeline.1)) :
    ∀ times ∈ (ofSource source).streams, P times := by
  intro times inside
  simp only [streams, List.mem_cons, List.not_mem_nil, or_false] at inside
  rcases inside with rfl | rfl | rfl | rfl | rfl
  · exact each Event.Kind.notes
  · exact each Event.Kind.sounds
  · exact each Event.Kind.pictures
  · exact each Event.Kind.tempoChanges
  · exact each Event.Kind.freezes

theorem streams_between {start finish : Clock} {source : Source}
    (passage : Passage start source.timeline.1 finish) :
    ∀ times ∈ (ofSource source).streams,
      times.Pairwise (· ≤ ·) ∧ ∀ t ∈ times, start.time ≤ t ∧ t ≤ finish.time :=
  streams_of_kinds passage.stream

section Text

variable {arithmetic : Arithmetic} {text : String} {source : Source} {chart : Chart}

theorem ofText_eq (compiled : ofText arithmetic text = .ok chart) :
    ∃ source md5 sha256, Source.parse text = .ok source ∧
      chart = { ofSource source with md5, sha256 } := by
  unfold ofText build at compiled
  split at compiled
  · cases compiled
  · rename_i source accepted
    dsimp only at compiled
    split_ifs at compiled
    cases compiled
    exact ⟨source, _, _, accepted, rfl⟩

theorem ofText_of_parse (arithmetic : Arithmetic) (accepted : Source.parse text = .ok source)
    (fits : Density.overflows ((ofSource source).notes.map Note.time) = false) :
    ∃ md5 sha256, ofText arithmetic text = .ok { ofSource source with md5, sha256 } := by
  unfold ofText build
  simp only [accepted, fits, Bool.and_false]
  exact ⟨_, _, rfl⟩

end Text

/-- The chart of some source, whatever digests it is marked with. -/
def IsCompiled (chart : Chart) : Prop :=
  ∃ source md5 sha256, chart = { ofSource source with md5, sha256 }

theorem ofSource_isCompiled (source : Source) : (ofSource source).IsCompiled :=
  ⟨source, _, _, rfl⟩

theorem IsCompiled.noteCount {chart : Chart} (compiled : chart.IsCompiled) :
    chart.noteCount = chart.notes.length := by
  obtain ⟨source, md5, sha256, rfl⟩ := compiled
  rfl

structure IsTimed (chart : Chart) : Prop where
  forward : 0.0 ≤ chart.duration
  streams : ∀ times ∈ chart.streams,
    times.Pairwise (· ≤ ·) ∧ ∀ t ∈ times, 0.0 ≤ t ∧ t ≤ chart.duration

theorem IsTimed.marked {chart : Chart} (timed : chart.IsTimed) (md5 sha256 : String) :
    ({ chart with md5, sha256 } : Chart).IsTimed :=
  ⟨timed.forward, timed.streams⟩

theorem ofText_isTimed {arithmetic : Arithmetic} {text : String} {chart : Chart}
    (compiled : ofText arithmetic text = .ok chart)
    (size : text.utf8ByteSize < UInt64.size) : chart.IsTimed := by
  obtain ⟨source, md5, sha256, accepted, rfl⟩ := ofText_eq compiled
  have passage := timeline_passage (Source.isSound_of_parse accepted size)
  have between := streams_between passage
  have timed : (ofSource source).IsTimed := ⟨passage.forward, between⟩
  exact timed.marked md5 sha256

/-- In the chart of any text that can be read, every stream comes in the order of time, all times
and stops are numbers that are not negative, and nothing lasts beyond the end. A text has no more
bytes than a word can count. -/
theorem times_ordered {text : String} {source : Source} (accepted : Source.parse text = .ok source)
    (size : text.utf8ByteSize < UInt64.size) :
    (∀ times ∈ (ofSource source).streams,
      times.Pairwise (· ≤ ·) ∧
      ∀ t ∈ times, t.isNaN = false ∧ 0.0 ≤ t ∧ t ≤ (ofSource source).duration) ∧
    (∀ f ∈ (ofSource source).freezes,
      f.duration.isNaN = false ∧ 0.0 ≤ f.duration ∧
      f.time + f.duration ≤ (ofSource source).duration) ∧
    (ofSource source).noteCount = (ofSource source).notes.length := by
  have passage := timeline_passage (Source.isSound_of_parse accepted size)
  refine ⟨?_, ?_, rfl⟩
  · intro times inside
    obtain ⟨sorted, between⟩ := streams_between passage times inside
    refine ⟨sorted, ?_⟩
    intro t given
    obtain ⟨nonneg, early⟩ := between t given
    exact ⟨(isNumber_of_le nonneg).2, nonneg, early⟩
  · intro f inside
    obtain ⟨e, here, found⟩ := List.mem_filterMap.mp inside
    have ended := passage.ended e here
    cases e with
    | freeze f' =>
      cases found
      exact ⟨(isNumber_of_le ended.1).2, ended⟩
    | note n => cases found
    | sound s => cases found
    | picture p => cases found
    | tempo c => cases found

theorem times_ordered_without_tempo :
    ∃ source, Source.parse "#BPM 0\n#STOP01 48\n#00111:0101\n#00109:01" = .ok source ∧
      "#BPM 0\n#STOP01 48\n#00111:0101\n#00109:01".utf8ByteSize < UInt64.size ∧
      ∀ times ∈ (ofSource source).streams, times.Pairwise (· ≤ ·) := by
  have size : "#BPM 0\n#STOP01 48\n#00111:0101\n#00109:01".utf8ByteSize < UInt64.size := by decide
  refine ⟨_, rfl, size, ?_⟩
  intro times inside
  exact ((@times_ordered "#BPM 0\n#STOP01 48\n#00111:0101\n#00109:01" _ rfl size).1 times inside).1

def slowed : Source :=
  ⟨[.header "BPM" "120", .row 0 ⟨0x03, "3C", 2⟩, .row 1 ⟨0x01, "01", 3⟩, .row 2 ⟨0x01, "02", 4⟩]⟩

theorem parse_slowed : Source.parse "#BPM 120\n#00003:3C\n#00101:01\n#00201:02" = .ok slowed := by
  rfl

theorem slowed_first : walkMeasure slowed 0 ⟨0.0, 120.0⟩ = ([.tempo ⟨0.0, 60.0⟩], ⟨4000.0, 60.0⟩) := by
  have cells : measureCells (slowed.rows 0) = [⟨.tempoValue, 0x03, 60, 0.0⟩] :=
    measureCells_single ⟨0x03, "3C", 2⟩ (by decide +kernel)
  rw [walkMeasure, cells]
  decide +kernel

theorem slowed_second : walkMeasure slowed 1 ⟨4000.0, 60.0⟩ =
    ([.sound ⟨4000.0, ⟨1⟩⟩], ⟨8000.0, 60.0⟩) := by
  have cells : measureCells (slowed.rows 1) = [⟨.sound, 0x01, 1, 0.0⟩] :=
    measureCells_single ⟨0x01, "01", 3⟩ (by decide +kernel)
  rw [walkMeasure, cells]
  decide +kernel

theorem slowed_third : walkMeasure slowed 2 ⟨8000.0, 60.0⟩ =
    ([.sound ⟨8000.0, ⟨2⟩⟩], ⟨12000.0, 60.0⟩) := by
  have cells : measureCells (slowed.rows 2) = [⟨.sound, 0x01, 2, 0.0⟩] :=
    measureCells_single ⟨0x01, "02", 4⟩ (by decide +kernel)
  rw [walkMeasure, cells]
  decide +kernel

theorem slowed_timeline : slowed.timeline =
    ([.tempo ⟨0.0, 60.0⟩, .sound ⟨4000.0, ⟨1⟩⟩, .sound ⟨8000.0, ⟨2⟩⟩], ⟨12000.0, 60.0⟩) := by
  have measures : slowed.measures = [0, 1, 2] := rfl
  have tempo : slowed.initialTempo = 120.0 := by decide +kernel
  rw [Source.timeline, measures, tempo]
  simp [walkMeasures, slowed_first, slowed_second, slowed_third]

theorem slowed_fits : Density.overflows ((ofSource slowed).notes.map Note.time) = false := by
  have notes : (ofSource slowed).notes = [] :=
    congrArg (fun walk => walk.1.filterMap Event.note?) slowed_timeline
  rw [notes]
  rfl

end Chart
end NoteChart
