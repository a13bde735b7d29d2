import NoteChart.Proofs.Binary64.Precision
import NoteChart.Proofs.Routing
import NoteChart.Proofs.Timeline

/-!
The stops of a chart. The walk reaches one cell after the other and leaves each no earlier than it
was reached; a stop is left when it is over, so whatever comes later comes after its end. Cells at
the place of a stop come first, however finely their rows are divided.
-/
namespace NoteChart

open Binary64

/-- A cell of the text, with the clock on reaching it. -/
structure Arrival where
  mark : Mark
  clock : Clock

namespace Arrival

variable (source : Source) (arrival : Arrival)

def events : List Event := (arrival.mark.cell.place source arrival.clock).1

def left : Clock := (arrival.mark.cell.place source arrival.clock).2

def note? : Option Note :=
  arrival.mark.note?.map fun (channel, lane, sample) => ⟨arrival.clock.time, channel, lane, sample⟩

def sound? : Option Sound := arrival.mark.sound?.map fun sample => ⟨arrival.clock.time, sample⟩

def picture? : Option Picture :=
  arrival.mark.picture?.map fun (layer, image) => ⟨arrival.clock.time, layer, image⟩

def tempo? : Option TempoChange :=
  (arrival.mark.tempo? source).map fun bpm => ⟨arrival.clock.time, bpm⟩

def freeze? : Option Freeze :=
  (arrival.mark.freeze? source arrival.clock.bpm).map fun span => ⟨arrival.clock.time, span⟩

end Arrival

def arrivalsIn (source : Source) (length : Float) : List Mark → Float → Clock → List Arrival
  | [], _, _ => []
  | mark :: rest, position, clock =>
    let here : Arrival :=
      ⟨mark, clock.pass (measureSpan (mark.position - position) length clock.bpm)⟩
    here :: arrivalsIn source length rest mark.position (here.left source)

def arrivalsThrough (source : Source) : List Nat → Clock → List Arrival
  | [], _ => []
  | measure :: rest, clock =>
    let rows := source.rows measure
    arrivalsIn source (measureLength rows) (measureMarks measure rows) 0.0 clock ++
      arrivalsThrough source rest (walkMeasure source measure clock).2

def Source.arrivals (source : Source) : List Arrival :=
  arrivalsThrough source source.measures ⟨0.0, source.initialTempo⟩

variable {source : Source} {clock : Clock}

section Walk

variable {length : Float}

theorem arrivalsIn_marks (marks : List Mark) (position : Float) (clock : Clock) :
    (arrivalsIn source length marks position clock).map Arrival.mark = marks := by
  induction marks generalizing position clock with
  | nil => rfl
  | cons mark rest ih => simp [arrivalsIn, ih]

theorem arrivalsIn_events (marks : List Mark) (position : Float) (clock : Clock) :
    (walkCells source length (marks.map Mark.cell) position clock).1 =
      (arrivalsIn source length marks position clock).flatMap (Arrival.events source) := by
  induction marks generalizing position clock with
  | nil => rfl
  | cons mark rest ih =>
    rw [arrivalsIn, List.flatMap_cons, ← ih]
    rfl

theorem arrivalsThrough_marks (measures : List Nat) (clock : Clock) :
    (arrivalsThrough source measures clock).map Arrival.mark =
      measures.flatMap fun measure => measureMarks measure (source.rows measure) := by
  induction measures generalizing clock with
  | nil => rfl
  | cons measure rest ih => simp [arrivalsThrough, arrivalsIn_marks, ih]

theorem arrivalsThrough_events (measures : List Nat) (clock : Clock) :
    (walkMeasures source measures clock).1 =
      (arrivalsThrough source measures clock).flatMap (Arrival.events source) := by
  induction measures generalizing clock with
  | nil => rfl
  | cons measure rest ih =>
    rw [arrivalsThrough, List.flatMap_append, ← arrivalsIn_events, ← ih, measureMarks_cells]
    rfl

end Walk

/-- The streams of a chart are what some cells say when they are reached. -/
structure Chart.IsPlacedBy (chart : Chart) (source : Source) (arrivals : List Arrival) : Prop where
  notes : chart.notes = arrivals.filterMap Arrival.note?
  sounds : chart.sounds = arrivals.filterMap Arrival.sound?
  pictures : chart.pictures = arrivals.filterMap Arrival.picture?
  tempoChanges : chart.tempoChanges = arrivals.filterMap (Arrival.tempo? source)
  freezes : chart.freezes = arrivals.filterMap (Arrival.freeze? source)

structure Arrival.IsPlaced (source : Source) (arrival : Arrival) : Prop where
  notes : (arrival.events source).filterMap Event.note? = arrival.note?.toList
  sounds : (arrival.events source).filterMap Event.sound? = arrival.sound?.toList
  pictures : (arrival.events source).filterMap Event.picture? = arrival.picture?.toList
  tempos : (arrival.events source).filterMap Event.tempo? = (arrival.tempo? source).toList
  freezes : (arrival.events source).filterMap Event.freeze? = (arrival.freeze? source).toList

theorem Arrival.isPlaced (source : Source) (arrival : Arrival) : arrival.IsPlaced source := by
  have found := Content.ofChannel_isOf arrival.mark.row.channel
  obtain ⟨sound, literal, name, stop⟩ := found.code
  constructor <;>
    simp only [events, note?, sound?, picture?, tempo?, freeze?, Mark.note?, Mark.sound?,
      Mark.picture?, Mark.tempo?, Mark.freeze?, Mark.stop?, found.lane, found.layer, sound, literal,
      name, stop, Cell.place, Mark.cell, Row.content] <;>
    cases Content.ofChannel arrival.mark.row.channel with
    | tempoName => cases source.tempo? ⟨arrival.mark.value⟩ <;> rfl
    | stopName => cases source.stop? ⟨arrival.mark.value⟩ <;> rfl
    | _ => rfl

theorem Arrival.events_times (source : Source) (arrival : Arrival) :
    (∀ e ∈ arrival.events source, e.time = arrival.clock.time) ∧
      ∀ f, .freeze f ∈ arrival.events source →
        f.time + f.duration = (arrival.left source).time := by
  simp only [events, left, Cell.place]
  constructor <;> cases arrival.mark.cell.content with
    | tempoName => cases source.tempo? ⟨arrival.mark.cell.value⟩ <;> simp [Event.time]
    | stopName => cases source.stop? ⟨arrival.mark.cell.value⟩ <;> simp [Event.time, Clock.pass]
    | _ => simp [Event.time]

structure Visit (source : Source) (start : Clock) (arrivals : List Arrival) (finish : Clock) :
    Prop where
  forward : start.time ≤ finish.time
  inOrder : arrivals.Pairwise fun a b => (a.left source).time ≤ b.clock.time
  after : ∀ a ∈ arrivals, start.time ≤ a.clock.time
  through : ∀ a ∈ arrivals, a.clock.time ≤ (a.left source).time
  before : ∀ a ∈ arrivals, (a.left source).time ≤ finish.time

namespace Visit

variable {start middle finish : Clock} {arrivals later : List Arrival}

theorem append (first : Visit source start arrivals middle)
    (second : Visit source middle later finish) :
    Visit source start (arrivals ++ later) finish where
  forward := Binary64.le_trans first.forward second.forward
  inOrder := by
    refine List.pairwise_append.mpr ⟨first.inOrder, second.inOrder, ?_⟩
    intro a ha b hb
    exact Binary64.le_trans (first.before a ha) (second.after b hb)
  after := by
    intro a inside
    rcases List.mem_append.mp inside with inside | inside
    · exact first.after a inside
    · exact Binary64.le_trans first.forward (second.after a inside)
  through := by
    intro a inside
    rcases List.mem_append.mp inside with inside | inside
    · exact first.through a inside
    · exact second.through a inside
  before := by
    intro a inside
    rcases List.mem_append.mp inside with inside | inside
    · exact Binary64.le_trans (first.before a inside) second.forward
    · exact second.before a inside

theorem none (forward : start.time ≤ finish.time) : Visit source start [] finish := by
  constructor <;> simp [forward]

theorem cons {arrival : Arrival} (arrived : start.time ≤ arrival.clock.time)
    (through : arrival.clock.time ≤ (arrival.left source).time)
    (rest : Visit source (arrival.left source) later finish) :
    Visit source start (arrival :: later) finish := by
  have single : Visit source start [arrival] (arrival.left source) := by
    have still := Binary64.le_refl (isNumber_of_le through).2
    constructor <;> simp [arrived, through, still, Binary64.le_trans arrived through]
  exact single.append rest

end Visit

theorem arrivalsIn_visit {length : Float} (source_sound : source.IsSound)
    (positive : 0.0 < length) (long : length.isFinite = true) (marks : List Mark)
    (position : Float) (sound : clock.IsSound) (inside : ∀ mark ∈ marks, mark.cell.IsInside)
    (sorted : marks.Pairwise fun a b => a.position ≤ b.position)
    (place : position.isFinite = true ∧ position ≤ 1.0)
    (ahead : ∀ mark ∈ marks, position ≤ mark.position) :
    Visit source clock (arrivalsIn source length marks position clock)
      (walkCells source length (marks.map Mark.cell) position clock).2 := by
  induction marks generalizing position clock with
  | nil =>
    have rest := measure_passage sound (Binary64.sub_nonneg place.2 place.1 (by decide)) positive
      long
    exact .none rest.forward
  | cons mark rest ih =>
    have here := inside mark List.mem_cons_self
    have part : 0.0 ≤ mark.position - position :=
      Binary64.sub_nonneg (ahead mark List.mem_cons_self) place.1 here.isFinite
    have arrival := measure_passage sound part positive long
    have placing := place_passage source_sound mark.cell (arrival.isSound sound)
    have ordered := List.pairwise_cons.mp sorted
    have later := ih mark.position (placing.isSound (arrival.isSound sound))
      (fun m given => inside m (List.mem_cons_of_mem mark given)) ordered.2 ⟨here.isFinite, here.2⟩
      ordered.1
    exact .cons arrival.forward placing.forward later

theorem arrivalsThrough_visit (source_sound : source.IsSound) (measures : List Nat)
    (sound : clock.IsSound) :
    Visit source clock (arrivalsThrough source measures clock)
      (walkMeasures source measures clock).2 := by
  induction measures generalizing clock with
  | nil => exact .none (Binary64.le_refl (isNumber_of_le sound.nonneg).2)
  | cons measure rest ih =>
    have short := source_sound.rows measure
    have cells := measureMarks_cells measure (source.rows measure)
    have inside : ∀ mark ∈ measureMarks measure (source.rows measure), mark.cell.IsInside := by
      intro mark given
      refine measureCells_isInside short mark.cell ?_
      rw [← cells]
      exact List.mem_map_of_mem given
    have sorted := measureCells_sorted short
    rw [← cells, List.pairwise_map] at sorted
    obtain ⟨positive, long⟩ := measureLength_pos (source.rows measure)
    have first := arrivalsIn_visit source_sound positive long _ 0.0 sound inside sorted
      ⟨by decide, by decide⟩ fun mark given => (inside mark given).1
    rw [cells] at first
    exact first.append (ih ((walkMeasure_passage source_sound measure sound).isSound sound))

theorem arrivals_visit (source_sound : source.IsSound) :
    Visit source ⟨0.0, source.initialTempo⟩ source.arrivals source.timeline.2 :=
  arrivalsThrough_visit source_sound source.measures
    ⟨Binary64.le_refl isNumber_zero, source.initialTempo_isFinite⟩

def Arrival.Precedes (source : Source) (a b : Arrival) : Prop :=
  a.mark.rank < b.mark.rank ∧ (a.left source).time ≤ b.clock.time

def Arrival.Apart (source : Source) (a b : Arrival) : Prop :=
  a = b ∨ a.Precedes source b ∨ b.Precedes source a

instance : Std.Symm (Arrival.Apart source) where
  symm _ _ apart := apart.imp Eq.symm Or.symm

namespace Mark

def IsStop (mark : Mark) : Prop := mark.row.channel = 0x09

def count (mark : Mark) : Nat := mark.row.bytes.length / 2

def Meets (a b : Mark) : Prop := a.measure = b.measure ∧ a.position.toBits = b.position.toBits

end Mark

theorem Source.Holds.inside {mark : Mark} (held : source.Holds mark) : mark.place < mark.count :=
  Row.valueAt?_inside held.2.2

theorem meets_of_fractions {a b : Mark} (held : source.Holds a) (held' : source.Holds b)
    (measure : a.measure = b.measure) (fraction : a.place * b.count = b.place * a.count)
    (short : a.count < 2 ^ 53) (short' : b.count < 2 ^ 53) : a.Meets b :=
  ⟨measure, fraction_toBits held.inside held'.inside short short' fraction⟩

/-- What is no stop has a lower rank than the stops it meets. -/
theorem rank_lt_of_meets {stop other : Mark} (isStop : stop.IsStop) (noStop : ¬other.IsStop)
    (meet : stop.Meets other) : other.rank < stop.rank := by
  have same : totalKey other.position = totalKey stop.position := by
    simp only [totalKey, meet.2]
  have ties : other.tie < stop.tie := by
    have last : stop.tie = 2 := by
      unfold Mark.tie
      rw [isStop]
      rfl
    rw [last]
    unfold Mark.tie
    split
    · decide
    · rw [if_neg (show ¬other.row.channel = 0x09 from noStop)]
      decide
  simp [Mark.rank, same, meet.1, List.cons_lt_cons_iff, ties]

theorem arrivals_marks (source : Source) : source.arrivals.map Arrival.mark = source.marks :=
  arrivalsThrough_marks source.measures _

theorem timeline_events (source : Source) :
    source.timeline.1 = source.arrivals.flatMap (Arrival.events source) :=
  arrivalsThrough_events source.measures _

theorem stream_arrivals {α : Type} {kind? : Event → Option α} {said? : Arrival → Option α}
    (each : ∀ a : Arrival, (a.events source).filterMap kind? = (said? a).toList) :
    source.timeline.1.filterMap kind? = source.arrivals.filterMap said? := by
  rw [timeline_events, List.filterMap_flatMap, List.filterMap_eq_flatMap_toList]
  simp only [each]

theorem Chart.ofSource_isPlacedBy (source : Source) :
    (ofSource source).IsPlacedBy source source.arrivals where
  notes := stream_arrivals fun a => (a.isPlaced source).notes
  sounds := stream_arrivals fun a => (a.isPlaced source).sounds
  pictures := stream_arrivals fun a => (a.isPlaced source).pictures
  tempoChanges := stream_arrivals fun a => (a.isPlaced source).tempos
  freezes := stream_arrivals fun a => (a.isPlaced source).freezes

namespace Chart

theorem mem_streams {times : List Float} (inside : times ∈ (ofSource source).streams) {t : Float}
    (given : t ∈ times) : ∃ a ∈ source.arrivals, t = a.clock.time := by
  refine streams_of_kinds
    (P := fun times => ∀ t ∈ times, ∃ a ∈ source.arrivals, t = a.clock.time) ?_ times inside t given
  intro α kind t inside
  obtain ⟨e, happened, rfl⟩ := Event.Kind.mem_times inside
  rw [timeline_events] at happened
  obtain ⟨a, reached, event⟩ := List.mem_flatMap.mp happened
  exact ⟨a, reached, (a.events_times source).1 e event⟩

theorem mem_freezes {f : Freeze} (inside : f ∈ (ofSource source).freezes) :
    ∃ a ∈ source.arrivals, f.time = a.clock.time ∧ f.time + f.duration = (a.left source).time := by
  obtain ⟨e, happened, kind⟩ := List.mem_filterMap.mp inside
  change e ∈ source.timeline.1 at happened
  rw [timeline_events] at happened
  obtain ⟨a, reached, event⟩ := List.mem_flatMap.mp happened
  obtain ⟨times, ends⟩ := a.events_times source
  cases e with
  | freeze f' =>
    cases kind
    exact ⟨a, reached, times _ event, ends f event⟩
  | note n => cases kind
  | sound s => cases kind
  | picture p => cases kind
  | tempo c => cases kind

theorem arrivals_apart {text : String} (accepted : Source.parse text = .ok source)
    {start finish : Clock} (visit : Visit source start source.arrivals finish) {a b : Arrival}
    (ha : a ∈ source.arrivals) (hb : b ∈ source.arrivals) : a.Apart source b := by
  have ranks := Source.marks_ranks (Source.parse_lines accepted)
  rw [← arrivals_marks, List.pairwise_map] at ranks
  have apart : source.arrivals.Pairwise (Arrival.Apart source) := by
    refine (ranks.and visit.inOrder).imp ?_
    intro a b before
    exact Or.inr (Or.inl before)
  have alone : ∀ a ∈ source.arrivals, a.Apart source a := fun a _ => Or.inl rfl
  exact apart.forall_of_forall alone ha hb

/-- Nothing happens during a stop of a chart: it comes by the start or from the end of the stop on.
Every cell that says something is placed at the time at which it is reached, and the cells at the
position of a stop that are none themselves are reached by its start. Cells at the same fraction of
a measure are at the same position, unless their rows have more cells than doubles tell apart. -/
theorem freezes_undisturbed {text : String} {source : Source}
    (accepted : Source.parse text = .ok source) (size : text.utf8ByteSize < UInt64.size) :
    let chart := ofSource source
    (∀ f ∈ chart.freezes, ∀ times ∈ chart.streams, ∀ t ∈ times,
      t ≤ f.time ∨ f.time + f.duration ≤ t) ∧
    chart.IsPlacedBy source source.arrivals ∧
    (∀ mark, mark ∈ source.arrivals.map Arrival.mark ↔ source.Holds mark) ∧
    (∀ stop ∈ source.arrivals, ∀ other ∈ source.arrivals,
      stop.mark.IsStop → ¬other.mark.IsStop → stop.mark.Meets other.mark →
      other.clock.time ≤ stop.clock.time) ∧
    ∀ a b, source.Holds a → source.Holds b → a.measure = b.measure →
      a.place * b.count = b.place * a.count → a.count < 2 ^ 53 → b.count < 2 ^ 53 → a.Meets b := by
  have visit := arrivals_visit (Source.isSound_of_parse accepted size)
  refine ⟨?_, ofSource_isPlacedBy source, ?_, ?_, fun a b => meets_of_fractions⟩
  · intro f inside times stream t given
    obtain ⟨stop, reached, start, finish⟩ := mem_freezes inside
    obtain ⟨other, reached', rfl⟩ := mem_streams stream given
    rw [finish, start]
    rcases arrivals_apart accepted visit reached reached' with rfl | ⟨-, after⟩ | ⟨-, before⟩
    · exact Or.inl (Binary64.le_refl (isNumber_of_le (visit.after stop reached)).2)
    · exact Or.inr after
    · exact Or.inl (Binary64.le_trans (visit.through other reached') before)
  · intro mark
    rw [arrivals_marks]
    exact Source.mem_marks
  · intro stop reached other reached' isStop noStop meet
    have lower := rank_lt_of_meets isStop noStop meet
    rcases arrivals_apart accepted visit reached reached' with rfl | ⟨higher, -⟩ | ⟨-, before⟩
    · exact absurd isStop noStop
    · exact absurd (lt_trans higher lower) (lt_irrefl _)
    · exact Binary64.le_trans (visit.through other reached') before

theorem freezes_undisturbed_by_finer_row :
    let source : Source :=
      ⟨[.stop ⟨1⟩ 48.0, .row 1 ⟨0x09, "0001", 2⟩, .row 1 ⟨0x11, "00000100", 3⟩]⟩
    Source.parse "#STOP01 48\n#00109:0001\n#00111:00000100" = .ok source ∧
      "#STOP01 48\n#00109:0001\n#00111:00000100".utf8ByteSize < UInt64.size ∧
      (∀ f ∈ (ofSource source).freezes, ∀ n ∈ (ofSource source).notes,
        n.time ≤ f.time ∨ f.time + f.duration ≤ n.time) ∧
      ∃ stop ∈ source.arrivals, ∃ other ∈ source.arrivals,
        stop.mark.count = 2 ∧ other.mark.count = 4 ∧ other.clock.time ≤ stop.clock.time := by
  intro source
  have accepted : Source.parse "#STOP01 48\n#00109:0001\n#00111:00000100" = .ok source := by rfl
  have size : "#STOP01 48\n#00109:0001\n#00111:00000100".utf8ByteSize < UInt64.size := by decide
  obtain ⟨still, -, held, early, fractions⟩ := freezes_undisturbed accepted size
  refine ⟨accepted, size, ?_, ?_⟩
  · intro f inside n given
    exact still f inside _ (.head _) _ (List.mem_map_of_mem given)
  · have stop : source.Holds ⟨1, ⟨0x09, "0001", 2⟩, 1, 1⟩ :=
      ⟨.tail _ (.head _), by decide, by decide⟩
    have note : source.Holds ⟨1, ⟨0x11, "00000100", 3⟩, 2, 1⟩ :=
      ⟨.tail _ (.tail _ (.head _)), by decide, by decide +kernel⟩
    have meet := fractions _ _ stop note rfl (by decide) (by decide) (by decide)
    obtain ⟨a, reached, same⟩ := List.mem_map.mp ((held _).mpr stop)
    obtain ⟨b, reached', same'⟩ := List.mem_map.mp ((held _).mpr note)
    have before := early a reached b reached'
    rw [same, same'] at before
    refine ⟨a, reached, b, reached', by rw [same]; decide, by rw [same']; decide, ?_⟩
    exact before rfl (by unfold Mark.IsStop; decide) meet

end Chart
end NoteChart
