import NoteChart.Proofs.Roll
import NoteChart.Proofs.Timeline

/-!
How late a chart can get. With measures and stops of a moderate length no span that the clock passes
is longer than a stride, and a clock that shows the limit does not move by a stride, which is
rounded away. So the clock never gets past the limit, however many spans there are.
-/
namespace NoteChart

open Binary64

def Clock.limit : Float := Float.ofBits 0x7FE0000000000000

/-- 2 to the 969, less than half of what the limit is away from the next double. -/
def Clock.stride : Float := Float.ofBits 0x7C80000000000000

def longestMeasure : Float := 1e283
def longestStop : Float := 1e285

theorem Clock.limit_add_stride : Clock.limit + Clock.stride = Clock.limit := by decide +kernel

theorem beatSpan_le {bpm : Float} (finite : bpm.isFinite = true) : beatSpan bpm ≤ beatSpan 0.0 := by
  have number := isNumber_of_finite finite
  have floor : Binary64.larger 0.0 tempoFloor = tempoFloor := by decide +kernel
  unfold beatSpan
  rw [floor]
  exact Binary64.div_le_div_left (by decide) (by decide) (by decide)
    (le_larger_right number (by decide))

theorem measureSpan_le {part length bpm : Float} (forward : 0.0 ≤ part) (inside : part ≤ 1.0)
    (positive : 0.0 < length) (moderate : length ≤ longestMeasure) (finite : bpm.isFinite = true) :
    measureSpan part length bpm ≤ Clock.stride := by
  have long : length.isFinite = true :=
    isFinite_of_between (Binary64.le_of_lt positive) moderate (by decide) (by decide +kernel)
  have beats : 0.0 ≤ part * 4.0 := Binary64.mul_nonneg forward (by decide) (by decide)
  have beats_le : part * 4.0 ≤ 1.0 * 4.0 :=
    Binary64.mul_le_mul_both forward inside (by decide) (by decide) (by decide) (by decide)
  have stretched : 0.0 ≤ part * 4.0 * length := Binary64.mul_nonneg beats positive long
  have stretched_le : part * 4.0 * length ≤ 1.0 * 4.0 * longestMeasure :=
    Binary64.mul_le_mul_both beats beats_le (by decide +kernel) (Binary64.le_of_lt positive)
      moderate (by decide +kernel)
  have beat := Binary64.le_of_lt (beatSpan_pos finite).1
  have longest : measureSpan part length bpm ≤ measureSpan 1.0 longestMeasure 0.0 :=
    Binary64.mul_le_mul_both stretched stretched_le (by decide +kernel) beat (beatSpan_le finite)
      (by decide +kernel)
  exact Binary64.le_trans longest (by decide +kernel)

theorem stopSpan_le {ticks bpm : Float} (number : IsNumber ticks) (moderate : ticks ≤ longestStop)
    (finite : bpm.isFinite = true) : stopSpan ticks bpm ≤ Clock.stride := by
  have zero : 0.0 ≤ Binary64.larger ticks 0.0 := le_larger_right number isNumber_zero
  have most : Binary64.larger ticks 0.0 ≤ longestStop := larger_le moderate (by decide +kernel)
  have measures : 0.0 ≤ Binary64.larger ticks 0.0 / ticksPerMeasure :=
    Binary64.div_nonneg zero (by decide) (by decide)
  have measures_le : Binary64.larger ticks 0.0 / ticksPerMeasure ≤ longestStop / ticksPerMeasure :=
    Binary64.div_le_div most (by decide) (by decide)
  have beats : 0.0 ≤ Binary64.larger ticks 0.0 / ticksPerMeasure * 4.0 :=
    Binary64.mul_nonneg measures (by decide) (by decide)
  have beats_le : Binary64.larger ticks 0.0 / ticksPerMeasure * 4.0 ≤
      longestStop / ticksPerMeasure * 4.0 :=
    Binary64.mul_le_mul_both measures measures_le (by decide +kernel) (by decide) (by decide)
      (by decide)
  have beat := Binary64.le_of_lt (beatSpan_pos finite).1
  have longest : stopSpan ticks bpm ≤ longestStop / ticksPerMeasure * 4.0 * beatSpan 0.0 :=
    Binary64.mul_le_mul_both beats beats_le (by decide +kernel) beat (beatSpan_le finite)
      (by decide +kernel)
  exact Binary64.le_trans longest (by decide +kernel)

/-- Measures and stops that are not too long for any tempo. -/
structure Source.IsModerate (source : Source) : Prop extends source.IsSound where
  lengths : ∀ measure, measureLength (source.rows measure) ≤ longestMeasure
  stops : ∀ id ticks, source.stop? id = some ticks → ticks ≤ longestStop

structure Clock.IsHeld (clock : Clock) : Prop extends clock.IsSound where
  early : clock.time ≤ Clock.limit

variable {source : Source} {clock : Clock}

theorem Clock.IsHeld.pass (held : clock.IsHeld) {span : Float} (nonneg : 0.0 ≤ span)
    (short : span ≤ Clock.stride) : (clock.pass span).IsHeld := by
  have finite : clock.time.isFinite = true :=
    isFinite_of_between held.nonneg held.early (by decide) (by decide +kernel)
  have sum : clock.time + span ≤ Clock.limit + Clock.stride :=
    Binary64.add_le_add held.early short finite (by decide +kernel)
  rw [Clock.limit_add_stride] at sum
  have forward := pass_forward held.toIsSound nonneg
  exact ⟨⟨Binary64.le_trans held.nonneg forward, held.tempo⟩, sum⟩

theorem Clock.IsHeld.place (moderate : source.IsModerate) (cell : Cell) (held : clock.IsHeld) :
    (cell.place source clock).2.IsHeld := by
  unfold Cell.place
  cases cell.content with
  | note lane => exact held
  | sound => exact held
  | image layer => exact held
  | tempoValue =>
    have finite : (Float.ofNat cell.value.toNat).isFinite = true :=
      ofNat_isFinite (cell.value.toNat_lt.trans (by decide))
    exact ⟨⟨held.nonneg, finite⟩, held.early⟩
  | tempoName =>
    dsimp only
    cases named : source.tempo? ⟨cell.value⟩ with
    | none => exact held
    | some bpm => exact ⟨⟨held.nonneg, moderate.tempo _ _ named⟩, held.early⟩
  | stopName =>
    dsimp only
    cases named : source.stop? ⟨cell.value⟩ with
    | none => exact held
    | some ticks =>
      have finite := moderate.stop _ _ named
      exact held.pass (stopSpan_nonneg finite held.tempo)
        (stopSpan_le (isNumber_of_finite finite) (moderate.stops _ _ named) held.tempo)
  | measureLength => exact held
  | nothing => exact held

theorem Clock.IsHeld.onward {length position x : Float} (held : clock.IsHeld)
    (positive : 0.0 < length) (short : length ≤ longestMeasure) (place : 0.0 ≤ position)
    (ahead : position ≤ x) (inside : x ≤ 1.0) :
    (clock.pass (measureSpan (x - position) length clock.bpm)).IsHeld := by
  have long : length.isFinite = true :=
    isFinite_of_between (Binary64.le_of_lt positive) short (by decide) (by decide +kernel)
  have start : position.isFinite = true :=
    isFinite_of_between place (Binary64.le_trans ahead inside) (by decide) (by decide)
  have finite : x.isFinite = true :=
    isFinite_of_between (Binary64.le_trans place ahead) inside (by decide) (by decide)
  have forward : 0.0 ≤ x - position := Binary64.sub_nonneg ahead start finite
  have part : x - position ≤ 1.0 := Binary64.le_trans (Binary64.sub_le_self finite place) inside
  exact held.pass (measureSpan_nonneg forward positive long held.tempo)
    (measureSpan_le forward part positive short held.tempo)

theorem walkCells_held (moderate : source.IsModerate) {length : Float} (positive : 0.0 < length)
    (short : length ≤ longestMeasure) (cells : List Cell) (position : Float) (held : clock.IsHeld)
    (inside : ∀ cell ∈ cells, cell.IsInside)
    (sorted : cells.Pairwise fun a b => a.position ≤ b.position)
    (place : 0.0 ≤ position ∧ position ≤ 1.0)
    (ahead : ∀ cell ∈ cells, position ≤ cell.position) :
    (walkCells source length cells position clock).2.IsHeld := by
  induction cells generalizing position clock with
  | nil => exact held.onward positive short place.1 place.2 (by decide)
  | cons cell rest ih =>
    have here := inside cell List.mem_cons_self
    have ordered := List.pairwise_cons.mp sorted
    have arrived := held.onward positive short place.1 (ahead cell List.mem_cons_self) here.2
    refine ih cell.position (arrived.place moderate cell) ?_ ordered.2 here ordered.1
    exact fun c given => inside c (List.mem_cons_of_mem cell given)

theorem walkMeasure_held (moderate : source.IsModerate) (measure : Nat) (held : clock.IsHeld) :
    (walkMeasure source measure clock).2.IsHeld := by
  have short := moderate.rows measure
  have inside := measureCells_isInside short
  exact walkCells_held moderate (measureLength_pos (source.rows measure)).1
    (moderate.lengths measure) _ 0.0 held inside (measureCells_sorted short)
    ⟨by decide, by decide⟩ fun cell given => (inside cell given).1

theorem walkMeasures_held (moderate : source.IsModerate) (measures : List Nat)
    (held : clock.IsHeld) : (walkMeasures source measures clock).2.IsHeld := by
  induction measures generalizing clock with
  | nil => exact held
  | cons measure rest ih => exact ih (walkMeasure_held moderate measure held)

theorem timeline_held (moderate : source.IsModerate) : source.timeline.2.IsHeld := by
  have early : 0.0 ≤ Clock.limit := by decide +kernel
  exact walkMeasures_held moderate source.measures
    ⟨⟨Binary64.le_refl isNumber_zero, source.initialTempo_isFinite⟩, early⟩

namespace Chart

/-- If a chart ends at some time, all that happens in it has a time, and so has the end of every
stop. -/
theorem isFinite_of_duration (sound : source.IsSound)
    (ends : (ofSource source).duration.isFinite = true) :
    (∀ times ∈ (ofSource source).streams, ∀ t ∈ times, t.isFinite = true) ∧
      ∀ f ∈ (ofSource source).freezes, f.duration.isFinite = true := by
  have passage := timeline_passage sound
  have zero : (0.0 : Float).isFinite = true := by decide
  constructor
  · intro times inside t given
    obtain ⟨low, high⟩ := (streams_between passage times inside).2 t given
    exact isFinite_of_between low high zero ends
  · intro f inside
    obtain ⟨e, here, found⟩ := List.mem_filterMap.mp inside
    have start := passage.after e here
    have ended := passage.ended e here
    cases e with
    | freeze f' =>
      cases found
      have within : f.duration ≤ (ofSource source).duration :=
        Binary64.le_trans (Binary64.le_add_left start ended.1) ended.2
      exact isFinite_of_between ended.1 within zero ends
    | note n => cases found
    | sound s => cases found
    | picture p => cases found
    | tempo c => cases found

/-- Without measures above 10 to the 283 and stops above 10 to the 285 every time of a chart is
finite, and so are its stops and its end, whatever the tempos and however many measures and stops
there are. -/
theorem times_finite {text : String} (accepted : Source.parse text = .ok source)
    (size : text.utf8ByteSize < UInt64.size)
    (lengths : ∀ measure, measureLength (source.rows measure) ≤ longestMeasure)
    (stops : ∀ id ticks, source.stop? id = some ticks → ticks ≤ longestStop) :
    (∀ times ∈ (ofSource source).streams, ∀ t ∈ times, t.isFinite = true) ∧
      (∀ f ∈ (ofSource source).freezes, f.duration.isFinite = true) ∧
      (ofSource source).duration.isFinite = true := by
  have sound := Source.isSound_of_parse accepted size
  have held := timeline_held ⟨sound, lengths, stops⟩
  have ends : (ofSource source).duration.isFinite = true :=
    isFinite_of_between held.nonneg held.early (by decide) (by decide +kernel)
  obtain ⟨times, freezes⟩ := isFinite_of_duration sound ends
  exact ⟨times, freezes, ends⟩

theorem times_finite_of_two_cells :
    let source : Source := ⟨[.row 0 ⟨0x02, "0.5", 1⟩, .stop ⟨1⟩ 48.0, .row 0 ⟨0x09, "01", 3⟩,
      .row 0 ⟨0x11, "01", 4⟩]⟩
    Source.parse "#00002:0.5\n#STOP01 48\n#00009:01\n#00011:01" = .ok source ∧
      "#00002:0.5\n#STOP01 48\n#00009:01\n#00011:01".utf8ByteSize < UInt64.size ∧
      (∀ measure, measureLength (source.rows measure) ≤ longestMeasure) ∧
      (∀ id ticks, source.stop? id = some ticks → ticks ≤ longestStop) ∧
      (ofSource source).duration.isFinite = true := by
  intro source
  have accepted : Source.parse "#00002:0.5\n#STOP01 48\n#00009:01\n#00011:01" = .ok source := by
    rfl
  have size : "#00002:0.5\n#STOP01 48\n#00009:01\n#00011:01".utf8ByteSize < UInt64.size := by
    decide
  have lengths : ∀ measure, measureLength (source.rows measure) ≤ longestMeasure := by
    intro measure
    cases measure with
    | zero => decide +kernel
    | succ measure =>
      have none : source.rows (measure + 1) = [] := rfl
      rw [none]
      decide +kernel
  have stops : ∀ id ticks, source.stop? id = some ticks → ticks ≤ longestStop := by
    intro id ticks found
    obtain ⟨statement, said, here⟩ := List.mem_filterMap.mp (List.mem_of_getLast? found)
    rw [Statement.stop?_eq_some.mp here] at said
    simp only [source, List.mem_cons, List.not_mem_nil, or_false, reduceCtorEq, false_or] at said
    cases said
    decide +kernel
  exact ⟨accepted, size, lengths, stops, (times_finite accepted size lengths stops).2.2⟩

def overlong : Source :=
  ⟨[.header "BPM" "1e10", .row 0 ⟨0x02, "1e308", 2⟩, .row 1 (rollRow 3)]⟩

theorem overlong_timeline :
    overlong.timeline = ([.note { rollNote with time := infinity }], ⟨infinity, 1e10⟩) := by
  have tempo : overlong.initialTempo = 1e10 := by decide +kernel
  have long : measureLength (overlong.rows 0) = 1e308 := by decide +kernel
  have empty : measureCells (overlong.rows 0) = [] := by
    have none : Row.cells ⟨0x02, "1e308", 2⟩ = [] := by decide +kernel
    have rows : overlong.rows 0 = [⟨0x02, "1e308", 2⟩] := rfl
    simp [measureCells, rows, none]
  have cells : measureCells (overlong.rows 1) = [rollCell] := measureCells_roll [3]
  have short : measureLength (overlong.rows 1) = 1.0 := measureLength_roll [3]
  have first : walkMeasure overlong 0 ⟨0.0, 1e10⟩ = ([], ⟨infinity, 1e10⟩) := by
    have span : (0.0 : Float) + measureSpan (1.0 - 0.0) 1e308 1e10 = infinity := by decide +kernel
    rw [walkMeasure, long, empty, walkCells, Clock.pass, span]
  have second : walkMeasure overlong 1 ⟨infinity, 1e10⟩ =
      ([.note { rollNote with time := infinity }], ⟨infinity, 1e10⟩) := by
    have still : (⟨infinity, 1e10⟩ : Clock).pass
        (measureSpan (rollCell.position - 0.0) 1.0 1e10) = ⟨infinity, 1e10⟩ := by decide +kernel
    have after : (⟨infinity, 1e10⟩ : Clock).pass (measureSpan (1.0 - 0.0) 1.0 1e10) =
        ⟨infinity, 1e10⟩ := by decide +kernel
    rw [walkMeasure, short, cells]
    exact (walkCells_roll overlong 1 still).trans (congrArg (Prod.mk _) after)
  have walk : overlong.timeline =
      walkMeasures overlong [0, 1] ⟨0.0, overlong.initialTempo⟩ := rfl
  rw [walk, tempo, walkMeasures, first]
  dsimp only
  rw [walkMeasures, second]
  rfl

/-- The measure would last 2.4 times 10 to the 303 milliseconds, which is a double; but its beats
are counted first, and are too many. So the note comes at no finite time. -/
theorem times_overflow :
    ∃ chart, ofText .checked "#BPM 1e10\n#00002:1e308\n#00111:01" = .ok chart ∧
      chart.notes.length = 1 ∧ (∀ t ∈ chart.notes.map Note.time, t.isFinite = false) ∧
      chart.duration.isFinite = false := by
  have accepted : Source.parse "#BPM 1e10\n#00002:1e308\n#00111:01" = .ok overlong := by rfl
  have notes : (ofSource overlong).notes = [{ rollNote with time := infinity }] := by
    change overlong.timeline.1.filterMap Event.note? = _
    rw [overlong_timeline]
    rfl
  have finish : (ofSource overlong).duration = infinity := by
    change overlong.timeline.2.time = _
    rw [overlong_timeline]
  have fits : Density.overflows ((ofSource overlong).notes.map Note.time) = false :=
    Density.not_overflows_of_length (by rw [notes]; decide)
  obtain ⟨md5, sha256, made⟩ := ofText_of_parse .checked accepted fits
  refine ⟨_, made, ?_, ?_, ?_⟩
  · exact congrArg List.length notes
  · change ∀ t ∈ (ofSource overlong).notes.map Note.time, t.isFinite = false
    rw [notes]
    intro t inside
    rw [List.mem_singleton.mp inside]
    decide
  · change (ofSource overlong).duration.isFinite = false
    rw [finish]
    decide

end Chart
end NoteChart
