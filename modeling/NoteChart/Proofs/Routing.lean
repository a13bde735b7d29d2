import NoteChart.Chart.Compile
import NoteChart.Proofs.Cells

/-!
Where the cells of a chart text go. Each cell adds to one stream of the chart at most, the one of
its channel, and nothing else adds to any; so a stream is what the cells of its channels say, in
their order.
-/
namespace NoteChart

namespace Mark

def note? (mark : Mark) : Option (UInt16 × Lane × ObjectId) :=
  (Lane.ofChannel? mark.row.channel).map fun lane => (mark.row.channel, lane, ⟨mark.value⟩)

def sound? (mark : Mark) : Option ObjectId :=
  if mark.row.channel = 0x01 then some ⟨mark.value⟩ else none

def picture? (mark : Mark) : Option (Layer × ObjectId) :=
  (Layer.ofChannel? mark.row.channel).map fun layer => (layer, ⟨mark.value⟩)

def tempo? (source : Source) (mark : Mark) : Option Float :=
  if mark.row.channel = 0x03 then some (.ofNat mark.value.toNat)
  else if mark.row.channel = 0x08 then source.tempo? ⟨mark.value⟩
  else none

def stop? (source : Source) (mark : Mark) : Option Float :=
  if mark.row.channel = 0x09 then source.stop? ⟨mark.value⟩ else none

def freeze? (source : Source) (bpm : Float) (mark : Mark) : Option Float :=
  (mark.stop? source).map fun ticks => stopSpan ticks bpm

end Mark

namespace Source

/-- What is said by cells, with regard to the tempo in effect at each of them. -/
def told {α : Type} (source : Source) (said? : Float → Mark → Option α) :
    Float → List Mark → List α
  | _, [] => []
  | bpm, mark :: rest =>
    (said? bpm mark).toList ++ source.told said? ((mark.tempo? source).getD bpm) rest

def tempoAfter (source : Source) (bpm : Float) (marks : List Mark) : Float :=
  marks.foldl (fun bpm mark => (mark.tempo? source).getD bpm) bpm

variable {α : Type} {source : Source} {said? : Float → Mark → Option α}

theorem told_append (bpm : Float) (marks later : List Mark) :
    source.told said? bpm (marks ++ later) =
      source.told said? bpm marks ++ source.told said? (source.tempoAfter bpm marks) later := by
  induction marks generalizing bpm with
  | nil => rfl
  | cons mark rest ih =>
    rw [List.cons_append, told, told, ih, List.append_assoc]
    rfl

theorem told_filterMap (said? : Mark → Option α) (bpm : Float) (marks : List Mark) :
    source.told (fun _ => said?) bpm marks = marks.filterMap said? := by
  induction marks generalizing bpm with
  | nil => rfl
  | cons mark rest ih =>
    rw [told, ih]
    cases said : said? mark <;> simp [said]

end Source

section Walk

variable {α : Type} {source : Source}

structure Mark.Tells (source : Source) (mark : Mark) (clock : Clock) (events : List Event)
    (left : Clock) : Prop where
  notes : events.filterMap (fun e => e.note?.map fun n => (n.channel, n.lane, n.sample)) =
    mark.note?.toList
  sounds : events.filterMap (fun e => e.sound?.map Sound.sample) = mark.sound?.toList
  pictures : events.filterMap (fun e => e.picture?.map fun p => (p.layer, p.image)) =
    mark.picture?.toList
  tempos : events.filterMap (fun e => e.tempo?.map TempoChange.bpm) =
    (mark.tempo? source).toList
  freezes : events.filterMap (fun e => e.freeze?.map Freeze.duration) =
    (mark.freeze? source clock.bpm).toList
  tempo : left.bpm = (mark.tempo? source).getD clock.bpm

theorem place_tells (source : Source) (mark : Mark) (clock : Clock) :
    mark.Tells source clock (mark.cell.place source clock).1 (mark.cell.place source clock).2 := by
  have found := Content.ofChannel_isOf mark.row.channel
  obtain ⟨sound, literal, name, stop⟩ := found.code
  constructor <;>
    simp only [Mark.note?, Mark.sound?, Mark.picture?, Mark.tempo?, Mark.freeze?, Mark.stop?,
      found.lane, found.layer, sound, literal, name, stop, Cell.place, Mark.cell, Row.content] <;>
    cases Content.ofChannel mark.row.channel with
    | tempoName => cases source.tempo? ⟨mark.value⟩ <;> rfl
    | stopName => cases source.stop? ⟨mark.value⟩ <;> rfl
    | _ => rfl

def Source.Hears (source : Source) (heard? : Event → Option α)
    (said? : Float → Mark → Option α) : Prop :=
  ∀ (mark : Mark) (clock : Clock),
    (mark.cell.place source clock).1.filterMap heard? = (said? clock.bpm mark).toList

variable {heard? : Event → Option α} {said? : Float → Mark → Option α}

theorem walkCells_told (hears : source.Hears heard? said?) (length : Float) (marks : List Mark)
    (position : Float) (clock : Clock) :
    let walk := walkCells source length (marks.map Mark.cell) position clock
    walk.1.filterMap heard? = source.told said? clock.bpm marks ∧
      walk.2.bpm = source.tempoAfter clock.bpm marks := by
  induction marks generalizing position clock with
  | nil => exact ⟨rfl, rfl⟩
  | cons mark rest ih =>
    let arrived := clock.pass (measureSpan (mark.cell.position - position) length clock.bpm)
    obtain ⟨later, final⟩ := ih mark.cell.position (mark.cell.place source arrived).2
    have tempo : (mark.cell.place source arrived).2.bpm = (mark.tempo? source).getD clock.bpm :=
      (place_tells source mark arrived).tempo
    rw [tempo] at later final
    refine ⟨?_, final⟩
    rw [Source.told, ← later]
    exact List.filterMap_append.trans (congrArg (· ++ _) (hears mark arrived))

theorem walkMeasures_told (hears : source.Hears heard? said?) (measures : List Nat)
    (clock : Clock) :
    (walkMeasures source measures clock).1.filterMap heard? = source.told said? clock.bpm
      (measures.flatMap fun measure => measureMarks measure (source.rows measure)) := by
  induction measures generalizing clock with
  | nil => rfl
  | cons measure rest ih =>
    obtain ⟨first, tempo⟩ := walkCells_told hears (measureLength (source.rows measure))
      (measureMarks measure (source.rows measure)) 0.0 clock
    rw [measureMarks_cells] at first tempo
    rw [List.flatMap_cons, Source.told_append, ← tempo, ← first, ← ih]
    exact List.filterMap_append

theorem stream_told {β : Type} {kind? : Event → Option β} {data : β → α}
    (hears : source.Hears (fun e => (kind? e).map data) said?) :
    (source.timeline.1.filterMap kind?).map data =
      source.told said? source.initialTempo source.marks := by
  rw [List.map_filterMap]
  exact walkMeasures_told hears source.measures ⟨0.0, source.initialTempo⟩

end Walk

namespace Chart

/-- In the chart of any text that can be read, every stream is what the cells of its channels say.
The cells that say something are all there, once, in the order of their ranks, and nothing but these
adds to a stream. -/
theorem cells_routed {text : String} {source : Source} (accepted : Source.parse text = .ok source) :
    ∃ marks : List Mark,
      (∀ mark, mark ∈ marks ↔ source.Holds mark) ∧
      marks.Pairwise (fun a b => a.rank < b.rank) ∧
      let chart := ofSource source
      chart.notes.map (fun n => (n.channel, n.lane, n.sample)) = marks.filterMap Mark.note? ∧
      (∀ n ∈ chart.notes, n.lane.channel = n.channel) ∧
      chart.sounds.map Sound.sample = marks.filterMap Mark.sound? ∧
      chart.pictures.map (fun p => (p.layer, p.image)) = marks.filterMap Mark.picture? ∧
      chart.tempoChanges.map TempoChange.bpm = marks.filterMap (Mark.tempo? source) ∧
      chart.freezes.map Freeze.duration =
        source.told (Mark.freeze? source) chart.initialTempo marks := by
  have stream {α β : Type} {kind? : Event → Option β} {data : β → α} {said? : Mark → Option α}
      (hears : source.Hears (fun e => (kind? e).map data) fun _ => said?) :
      (source.timeline.1.filterMap kind?).map data = source.marks.filterMap said? := by
    rw [stream_told hears, Source.told_filterMap]
  have notes := stream fun mark clock => (place_tells source mark clock).notes
  refine ⟨source.marks, fun mark => Source.mem_marks,
    Source.marks_ranks (Source.parse_lines accepted), notes, ?_, ?_, ?_, ?_, ?_⟩
  · intro n inside
    have given := List.mem_map_of_mem (f := fun n : Note => (n.channel, n.lane, n.sample)) inside
    change _ ∈ (source.timeline.1.filterMap Event.note?).map _ at given
    rw [notes] at given
    obtain ⟨mark, -, said⟩ := List.mem_filterMap.mp given
    obtain ⟨lane, found, same⟩ := Option.map_eq_some_iff.mp said
    obtain ⟨channel, same⟩ := Prod.mk.inj same
    rw [← channel, ← (Prod.mk.inj same).1]
    exact Lane.ofChannel?_channel found
  · exact stream fun mark clock => (place_tells source mark clock).sounds
  · exact stream fun mark clock => (place_tells source mark clock).pictures
  · exact stream fun mark clock => (place_tells source mark clock).tempos
  · exact stream_told fun mark clock => (place_tells source mark clock).freezes

theorem cells_routed_of_two_rows :
    let source : Source := ⟨[.row 1 ⟨0x11, "G!01", 1⟩, .row 1 ⟨0x03, "7F+a-0", 2⟩]⟩
    Source.parse "#00111:G!01\n#00103:7F+a-0" = .ok source ∧
      (0x11, ⟨.p1, .key 1⟩, ⟨1⟩) ∈
        (ofSource source).notes.map (fun n => (n.channel, n.lane, n.sample)) ∧
      Float.ofNat 10 ∈ (ofSource source).tempoChanges.map TempoChange.bpm := by
  intro source
  have accepted : Source.parse "#00111:G!01\n#00103:7F+a-0" = .ok source := by rfl
  obtain ⟨marks, held, -, notes, -, -, -, tempos, -⟩ := cells_routed accepted
  have note : source.Holds ⟨1, ⟨0x11, "G!01", 1⟩, 1, 1⟩ := ⟨.head _, by decide, by decide⟩
  have tempo : source.Holds ⟨1, ⟨0x03, "7F+a-0", 2⟩, 1, 10⟩ :=
    ⟨.tail _ (.head _), by decide, by decide⟩
  rw [notes, tempos]
  exact ⟨accepted, List.mem_filterMap.mpr ⟨_, (held _).mpr note, by decide⟩,
    List.mem_filterMap.mpr ⟨_, (held _).mpr tempo, by decide⟩⟩

end Chart
end NoteChart
