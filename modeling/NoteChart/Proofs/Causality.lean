import NoteChart.Proofs.Interleaving
import NoteChart.Proofs.Timeline

/-!
What comes later does not change what comes before. A source without the rows from some measure on
makes the same walk as the whole one, as far as it goes, since a measure is known from its own rows,
the names and the clock that it is given. So the events of the shorter chart are the first of the
longer one, and the others come when the shorter one has ended.
-/
namespace NoteChart

open Binary64

namespace Source

variable {source : Source} {m : Nat}

/-- The source without the rows of a measure and of all after it. -/
def before (source : Source) (m : Nat) : Source :=
  ⟨source.statements.filter fun statement => statement.measure?.all (· < m)⟩

theorem filterMap_before {α : Type} {read : Statement → Option α}
    (kept : ∀ statement, (read statement).isSome = true →
      statement.measure?.all (· < m) = true) :
    (source.before m).statements.filterMap read = source.statements.filterMap read := by
  unfold before
  rw [List.filterMap_filter]
  refine List.filterMap_congr ?_
  intro statement inside
  split_ifs with early
  · rfl
  · exact (Option.not_isSome_iff_eq_none.mp (mt (kept statement) early)).symm

theorem before_header? (key : String) : (source.before m).header? key = source.header? key := by
  refine congrArg List.getLast? (filterMap_before ?_)
  rintro ⟨⟩ <;> simp [Statement.header?, Statement.measure?]

theorem before_tempo? (id : ObjectId) : (source.before m).tempo? id = source.tempo? id := by
  refine congrArg List.getLast? (filterMap_before ?_)
  rintro ⟨⟩ <;> simp [Statement.tempo?, Statement.measure?]

theorem before_stop? (id : ObjectId) : (source.before m).stop? id = source.stop? id := by
  refine congrArg List.getLast? (filterMap_before ?_)
  rintro ⟨⟩ <;> simp [Statement.stop?, Statement.measure?]

theorem before_rows {measure : Nat} (early : measure < m) :
    (source.before m).rows measure = source.rows measure := by
  refine filterMap_before ?_
  intro statement here
  cases statement with
  | row measure' row =>
    have same : measure' = measure := by simpa [Statement.row?] using here
    simpa [Statement.measure?, same] using early
  | _ => rfl

theorem before_initialTempo : (source.before m).initialTempo = source.initialTempo := by
  unfold initialTempo
  rw [before_header?]

theorem mem_before_measures {measure : Nat} :
    measure ∈ (source.before m).statements.filterMap Statement.measure? ↔
      measure ∈ source.statements.filterMap Statement.measure? ∧ measure < m := by
  simp only [before, List.mem_filterMap, List.mem_filter]
  constructor
  · rintro ⟨statement, ⟨inside, early⟩, found⟩
    rw [found] at early
    exact ⟨⟨statement, inside, found⟩, by simpa using early⟩
  · rintro ⟨⟨statement, inside, found⟩, early⟩
    exact ⟨statement, ⟨inside, by simp [found, early]⟩, found⟩

theorem measures_before (source : Source) (m : Nat) :
    (∀ measure ∈ (source.before m).measures, measure < m) ∧
      (source.before m).measures <+: source.measures := by
  unfold measures
  cases shorter : (source.before m).lastMeasure? with
  | none => simp
  | some last =>
    obtain ⟨inside, -⟩ := List.max?_eq_some_iff.mp shorter
    obtain ⟨given, early⟩ := mem_before_measures.mp inside
    obtain ⟨whole, longer⟩ : ∃ whole, source.lastMeasure? = some whole :=
      Option.isSome_iff_exists.mp (List.isSome_max?_of_mem given)
    have below : last ≤ whole := (List.max?_eq_some_iff.mp longer).2 last given
    rw [longer]
    dsimp only
    constructor
    · intro measure passed
      exact (Nat.lt_succ_iff.mp (List.mem_range.mp passed)).trans_lt early
    · have taken := List.take_prefix (last + 1) (List.range (whole + 1))
      rwa [List.take_range, Nat.min_eq_left (by omega)] at taken

end Source

theorem walkMeasures_append (source : Source) (first second : List Nat) (clock : Clock) :
    walkMeasures source (first ++ second) clock =
      ((walkMeasures source first clock).1 ++
        (walkMeasures source second (walkMeasures source first clock).2).1,
      (walkMeasures source second (walkMeasures source first clock).2).2) := by
  induction first generalizing clock with
  | nil => rfl
  | cons measure rest ih => simp [walkMeasures, ih]

theorem walkMeasures_before {source : Source} {m : Nat} {measures : List Nat}
    (early : ∀ measure ∈ measures, measure < m) (clock : Clock) :
    walkMeasures (source.before m) measures clock = walkMeasures source measures clock := by
  have place : Cell.place (source.before m) = Cell.place source :=
    Cell.place_congr Source.before_tempo? Source.before_stop?
  induction measures generalizing clock with
  | nil => rfl
  | cons measure rest ih =>
    have here (clock : Clock) :
        walkMeasure (source.before m) measure clock = walkMeasure source measure clock := by
      unfold walkMeasure
      rw [Source.before_rows (early measure List.mem_cons_self)]
      exact walkCells_congr place _ _ _ _
    have later := ih fun measure inside => early measure (List.mem_cons_of_mem _ inside)
    simp only [walkMeasures, here, later]

theorem timeline_before {source : Source} (sound : source.IsSound) (m : Nat) :
    ∃ later, source.timeline.1 = (source.before m).timeline.1 ++ later ∧
      Passage (source.before m).timeline.2 later source.timeline.2 := by
  obtain ⟨early, rest, longer⟩ := source.measures_before m
  have start : Clock.IsSound ⟨0.0, source.initialTempo⟩ :=
    ⟨Binary64.le_refl isNumber_zero, source.initialTempo_isFinite⟩
  have shorter : (source.before m).timeline =
      walkMeasures source (source.before m).measures ⟨0.0, source.initialTempo⟩ := by
    unfold Source.timeline
    rw [walkMeasures_before early, Source.before_initialTempo]
  have reached : (source.before m).timeline.2.IsSound := by
    rw [shorter]
    exact (walkMeasures_passage sound _ start).isSound start
  have whole : source.timeline =
      ((source.before m).timeline.1 ++
        (walkMeasures source rest (source.before m).timeline.2).1,
      (walkMeasures source rest (source.before m).timeline.2).2) := by
    rw [shorter, ← walkMeasures_append, longer]
    rfl
  rw [whole]
  exact ⟨_, rfl, walkMeasures_passage sound rest reached⟩

namespace Chart

def GoesOn {α : Type} (time : α → Float) (finish : Float) (items more : List α) : Prop :=
  ∃ rest, more = items ++ rest ∧ ∀ item ∈ rest, finish ≤ time item

theorem goesOn_of_passage {α : Type} {start finish : Clock} {events later : List Event}
    (passage : Passage start later finish) (kind : Event.Kind α) :
    GoesOn kind.time start.time (events.filterMap kind.pick?)
      ((events ++ later).filterMap kind.pick?) := by
  refine ⟨later.filterMap kind.pick?, List.filterMap_append, ?_⟩
  intro item inside
  exact ((passage.stream kind).2 _ (List.mem_map_of_mem inside)).1

/-- Rows have no effect on what comes before their measure. Without the rows from some measure on,
every stream of a chart is the first part of what it is with them, and the rest of it does not come
before the end of the shorter chart. A text has no more bytes than a word can count. -/
theorem ofSource_causal {text : String} {source : Source}
    (accepted : Source.parse text = .ok source) (size : text.utf8ByteSize < UInt64.size) (m : Nat) :
    let shorter := ofSource (source.before m)
    let whole := ofSource source
    GoesOn Note.time shorter.duration shorter.notes whole.notes ∧
    GoesOn Sound.time shorter.duration shorter.sounds whole.sounds ∧
    GoesOn Picture.time shorter.duration shorter.pictures whole.pictures ∧
    GoesOn TempoChange.time shorter.duration shorter.tempoChanges whole.tempoChanges ∧
    GoesOn Freeze.time shorter.duration shorter.freezes whole.freezes ∧
    shorter.duration ≤ whole.duration := by
  intro shorter whole
  obtain ⟨later, longer, passage⟩ := timeline_before (Source.isSound_of_parse accepted size) m
  have goesOn {α : Type} (kind : Event.Kind α) :
      GoesOn kind.time shorter.duration ((source.before m).timeline.1.filterMap kind.pick?)
        (source.timeline.1.filterMap kind.pick?) := by
    rw [longer]
    exact goesOn_of_passage passage kind
  exact ⟨goesOn .notes, goesOn .sounds, goesOn .pictures, goesOn .tempoChanges, goesOn .freezes,
    passage.forward⟩

theorem ofSource_causal_of_slowed :
    Source.parse "#BPM 120\n#00003:3C\n#00101:01\n#00201:02" = .ok slowed ∧
      "#BPM 120\n#00003:3C\n#00101:01\n#00201:02".utf8ByteSize < UInt64.size ∧
      (ofSource (slowed.before 2)).duration = 8000.0 ∧
      (ofSource (slowed.before 2)).sounds = [⟨4000.0, ⟨1⟩⟩] ∧
      (ofSource slowed).sounds = [⟨4000.0, ⟨1⟩⟩, ⟨8000.0, ⟨2⟩⟩] ∧
      GoesOn Sound.time (ofSource (slowed.before 2)).duration (ofSource (slowed.before 2)).sounds
        (ofSource slowed).sounds := by
  have size : "#BPM 120\n#00003:3C\n#00101:01\n#00201:02".utf8ByteSize < UInt64.size := by decide
  have shorter : (slowed.before 2).timeline =
      ([.tempo ⟨0.0, 60.0⟩, .sound ⟨4000.0, ⟨1⟩⟩], ⟨8000.0, 60.0⟩) := by
    have measures : (slowed.before 2).measures = [0, 1] := rfl
    have tempo : (slowed.before 2).initialTempo = 120.0 := by decide +kernel
    rw [Source.timeline, measures, walkMeasures_before (by decide), tempo]
    simp [walkMeasures, slowed_first, slowed_second]
  have duration : (ofSource (slowed.before 2)).duration = 8000.0 := congrArg (·.2.time) shorter
  have sounds : (ofSource (slowed.before 2)).sounds = [⟨4000.0, ⟨1⟩⟩] :=
    congrArg (fun walk => walk.1.filterMap Event.sound?) shorter
  have sounds' : (ofSource slowed).sounds = [⟨4000.0, ⟨1⟩⟩, ⟨8000.0, ⟨2⟩⟩] :=
    congrArg (fun walk => walk.1.filterMap Event.sound?) slowed_timeline
  exact ⟨parse_slowed, size, duration, sounds, sounds', (ofSource_causal parse_slowed size 2).2.1⟩

end Chart
end NoteChart
