import NoteChart.Proofs.Binary64.Precision
import NoteChart.Proofs.Routing
import NoteChart.Proofs.Source.WellFormed
import NoteChart.Proofs.Timeline

/-!
The main tempo by its definition. A tempo is held on stretches, each from a change to the next or
to the end, and the main tempo is the first of the distinct tempos that is held no shorter than any
other. The list that grows entry by entry has the distinct tempos in the order of their first
stretches, and what is added to an entry is all that its tempo is held; so the scan of the list,
which gives way to a longer entry only, stops at the first of the longest.
-/
namespace NoteChart

open Binary64

def stretch (start stop : Float) : Float :=
  if 0.0 < stop - start then stop - start else 0.0

/-- Every tempo with the stretch from its start to the next change, or to the end. -/
def stretches (initial : Float) (changes : List TempoChange) (finish : Float) : List Holding :=
  let times := changes.map TempoChange.time
  List.zipWith Holding.mk (tempos initial changes)
    (List.zipWith stretch (0.0 :: times) (times ++ [finish]))

def heldFor (held : List Holding) (bpm : Float) : Float :=
  ((held.filter fun h => h.bpm == bpm).map Holding.span).foldl (· + ·) 0.0

/-- The first of some tempos whose total is maximal. -/
def IsFirstGreatest (total : Float → Float) (tempos : List Float) (bpm : Float) : Prop :=
  ∃ front rest, tempos = front ++ bpm :: rest ∧
    (∀ b ∈ front, total b < total bpm) ∧ ∀ b ∈ rest, total b ≤ total bpm

structure Chart.IsPaced (chart : Chart) : Prop where
  main : IsFirstGreatest (heldFor (stretches chart.initialTempo chart.tempoChanges chart.duration))
    (tempos chart.initialTempo chart.tempoChanges).eraseDups chart.mainTempo
  main_mem : chart.mainTempo ∈ tempos chart.initialTempo chart.tempoChanges
  min_mem : chart.minTempo ∈ tempos chart.initialTempo chart.tempoChanges
  max_mem : chart.maxTempo ∈ tempos chart.initialTempo chart.tempoChanges
  min_le : ∀ bpm ∈ tempos chart.initialTempo chart.tempoChanges, chart.minTempo ≤ bpm
  le_max : ∀ bpm ∈ tempos chart.initialTempo chart.tempoChanges, bpm ≤ chart.maxTempo
  between : chart.minTempo ≤ chart.mainTempo ∧ chart.mainTempo ≤ chart.maxTempo

theorem larger_zero (x : Float) : larger x 0.0 = if 0.0 < x then x else 0.0 := by
  by_cases number : IsNumber x
  · exact larger_eq number isNumber_zero
  · have none : ¬0.0 < x := fun positive => number (lt_iff.mp positive).2.1
    rw [if_neg none]
    unfold larger
    rw [if_pos (by simpa [IsNumber] using number)]

theorem holdings_eq (start bpm : Float) (changes : List TempoChange) (finish : Float) :
    holdings start bpm changes finish =
      List.zipWith Holding.mk (tempos bpm changes)
        (List.zipWith stretch (start :: changes.map TempoChange.time)
          (changes.map TempoChange.time ++ [finish])) := by
  induction changes generalizing start bpm with
  | nil => simp [holdings, tempos, stretch, larger_zero]
  | cons next rest ih => simp [holdings, tempos, stretch, larger_zero, ih]

theorem stretch_nonneg (start stop : Float) : 0.0 ≤ stretch start stop := by
  unfold stretch
  split_ifs with positive
  · exact Binary64.le_of_lt positive
  · exact Binary64.le_refl isNumber_zero

theorem zero_add_stretch (start stop : Float) : 0.0 + stretch start stop = stretch start stop := by
  unfold stretch
  split_ifs with positive
  · obtain ⟨number, above⟩ := pos_iff.mp positive
    have low : value 0.0 ≠ ⊥ ∧ value 0.0 ≠ ⊤ := by simp [value_zero]
    obtain ⟨number', sum⟩ :=
      add_value (x := 0.0) isNumber_zero number (Or.inl low.1) (Or.inl low.2)
    rw [value_zero, zero_add, nearest_value] at sum
    exact eq_of_value (by rw [sum]; exact above.ne') number' number sum
  · decide +kernel

theorem stretches_bpms (initial : Float) (changes : List TempoChange) (finish : Float) :
    (stretches initial changes finish).map Holding.bpm = tempos initial changes := by
  unfold stretches
  rw [← List.map_uncurry_zip_eq_zipWith, List.map_map]
  exact List.map_fst_zip (by simp [tempos])

theorem stretches_spans {initial : Float} {changes : List TempoChange} {finish : Float}
    {h : Holding} (inside : h ∈ stretches initial changes finish) :
    ∃ start stop, h.span = stretch start stop := by
  simp only [stretches, ← List.map_uncurry_zip_eq_zipWith] at inside
  obtain ⟨⟨bpm, span⟩, given, rfl⟩ := List.mem_map.mp inside
  obtain ⟨⟨start, stop⟩, -, same⟩ := List.mem_map.mp (List.of_mem_zip given).2
  exact ⟨start, stop, same.symm⟩

theorem eraseDups_subset (items : List Float) : ∀ x ∈ items.eraseDups, x ∈ items := by
  match items with
  | [] => simp
  | a :: rest =>
    have shorter : (rest.filter fun b => !b == a).length < rest.length + 1 :=
      Nat.lt_succ_of_le (List.length_filter_le _ _)
    intro x inside
    rw [List.eraseDups_cons] at inside
    rcases List.mem_cons.mp inside with rfl | later
    · exact List.mem_cons_self
    · have given := eraseDups_subset _ x later
      exact List.mem_cons_of_mem a (List.mem_filter.mp given).1
termination_by items.length

def totals (held : List Holding) : List Holding := held.foldl (fun t h => addHolding h t) []

theorem foldl_addHolding (entry : Holding) (entries held : List Holding) :
    held.foldl (fun t h => addHolding h t) (entry :: entries) =
      { entry with
        span := ((held.filter fun h => h.bpm == entry.bpm).map Holding.span).foldl (· + ·)
          entry.span } ::
        (held.filter fun h => !h.bpm == entry.bpm).foldl (fun t h => addHolding h t) entries := by
  induction held generalizing entry entries with
  | nil => rfl
  | cons h rest ih =>
    rw [List.foldl_cons, addHolding, Binary64.beq_comm]
    cases same : h.bpm == entry.bpm with
    | true => simp [ih, same]
    | false => simp [ih, same]

theorem heldFor_apart {h : Holding} {bpm : Float} (rest : List Holding)
    (apart : (bpm == h.bpm) = false) :
    heldFor (rest.filter fun k => !k.bpm == h.bpm) bpm = heldFor (h :: rest) bpm := by
  have other : (h.bpm == bpm) = false := by rwa [Binary64.beq_comm]
  unfold heldFor
  rw [List.filter_cons_of_neg (by simp [other]), List.filter_filter]
  congr 2
  refine List.filter_congr fun k _ => ?_
  cases same : k.bpm == bpm with
  | false => rfl
  | true =>
    have differs : (k.bpm == h.bpm) = false := by
      by_contra both
      rw [Bool.not_eq_false, Binary64.beq_comm] at both
      rw [Binary64.beq_trans both same] at other
      cases other
    simp [differs]

/-- One entry for each distinct tempo, in the order of their first stretches, with all that the
tempo is held. -/
theorem totals_eq (held : List Holding) (numbers : ∀ h ∈ held, IsNumber h.bpm)
    (spans : ∀ h ∈ held, 0.0 + h.span = h.span) :
    totals held = (held.map Holding.bpm).eraseDups.map fun bpm => ⟨bpm, heldFor held bpm⟩ := by
  match held with
  | [] => rfl
  | h :: rest =>
    have shorter : (rest.filter fun k => !k.bpm == h.bpm).length < rest.length + 1 :=
      Nat.lt_succ_of_le (List.length_filter_le _ _)
    have part {k : Holding} (inside : k ∈ rest.filter fun k => !k.bpm == h.bpm) : k ∈ h :: rest :=
      List.mem_cons_of_mem h (List.mem_filter.mp inside).1
    have later := totals_eq (rest.filter fun k => !k.bpm == h.bpm)
      (fun k inside => numbers k (part inside)) fun k inside => spans k (part inside)
    have own : (h.bpm == h.bpm) = true := Binary64.beq_self (numbers h List.mem_cons_self)
    have first : heldFor (h :: rest) h.bpm =
        ((rest.filter fun k => k.bpm == h.bpm).map Holding.span).foldl (· + ·) h.span := by
      have front : ((h :: rest).filter fun k => k.bpm == h.bpm) =
          h :: rest.filter fun k => k.bpm == h.bpm := List.filter_cons_of_pos own
      rw [heldFor, front, List.map_cons, List.foldl_cons, spans h List.mem_cons_self]
    have others : ((rest.map Holding.bpm).filter fun b => !b == h.bpm) =
        (rest.filter fun k => !k.bpm == h.bpm).map Holding.bpm := List.filter_map
    rw [List.map_cons, List.eraseDups_cons, List.map_cons, others, first]
    change (rest.foldl (fun t k => addHolding k t) [h]) = _
    rw [foldl_addHolding]
    refine congrArg _ (later.trans (List.map_congr_left fun bpm inside => ?_))
    obtain ⟨k, given, rfl⟩ := List.mem_map.mp (eraseDups_subset _ bpm inside)
    have apart : (k.bpm == h.bpm) = false := by simpa using (List.mem_filter.mp given).2
    rw [heldFor_apart rest apart]
termination_by held.length

theorem foldl_add_nonneg (spans : List Float) {start : Float} (begun : 0.0 ≤ start)
    (nonneg : ∀ s ∈ spans, 0.0 ≤ s) : 0.0 ≤ spans.foldl (· + ·) start := by
  induction spans generalizing start with
  | nil => exact begun
  | cons s rest ih =>
    have here := nonneg s List.mem_cons_self
    have more := Binary64.le_trans begun (Binary64.le_add_of_nonneg begun here)
    exact ih more fun t inside => nonneg t (List.mem_cons_of_mem s inside)

theorem heldFor_nonneg {held : List Holding} (spans : ∀ h ∈ held, 0.0 ≤ h.span) (bpm : Float) :
    0.0 ≤ heldFor held bpm := by
  refine foldl_add_nonneg _ (Binary64.le_refl isNumber_zero) ?_
  intro s inside
  obtain ⟨h, given, rfl⟩ := List.mem_map.mp inside
  exact spans h (List.mem_filter.mp given).1

theorem longest_split (best : Holding) (entries : List Holding) (number : IsNumber best.span)
    (numbers : ∀ e ∈ entries, IsNumber e.span) :
    (longest best entries = best ∧ ∀ e ∈ entries, e.span ≤ best.span) ∨
    ∃ front rest, entries = front ++ longest best entries :: rest ∧
      best.span < (longest best entries).span ∧
      (∀ e ∈ front, e.span < (longest best entries).span) ∧
      ∀ e ∈ rest, e.span ≤ (longest best entries).span := by
  induction entries generalizing best with
  | nil => exact Or.inl ⟨rfl, by simp⟩
  | cons e rest ih =>
    have here := numbers e List.mem_cons_self
    have later : ∀ k ∈ rest, IsNumber k.span :=
      fun k inside => numbers k (List.mem_cons_of_mem e inside)
    rw [longest]
    by_cases longer : best.span < e.span
    · rw [if_pos longer]
      rcases ih e here later with ⟨same, below⟩ | ⟨front, after, split, above, less, below⟩
      · rw [same]
        exact Or.inr ⟨[], rest, rfl, longer, by simp, below⟩
      · refine Or.inr ⟨e :: front, after, congrArg (e :: ·) split, ?_, ?_, below⟩
        · exact Binary64.lt_of_lt_of_le longer (Binary64.le_of_lt above)
        · exact List.forall_mem_cons.mpr ⟨above, less⟩
    · rw [if_neg longer]
      have least := (Binary64.not_lt number here).mp longer
      rcases ih best number later with ⟨same, below⟩ | ⟨front, after, split, above, less, below⟩
      · exact Or.inl ⟨same, List.forall_mem_cons.mpr ⟨least, below⟩⟩
      · refine Or.inr ⟨e :: front, after, congrArg (e :: ·) split, above, ?_, below⟩
        exact List.forall_mem_cons.mpr ⟨Binary64.lt_of_le_of_lt least above, less⟩

theorem mainTempo_isFirstGreatest {initial : Float} {changes : List TempoChange}
    (number : IsNumber initial) (numbers : ∀ c ∈ changes, IsNumber c.bpm) (finish : Float) :
    IsFirstGreatest (heldFor (stretches initial changes finish)) (tempos initial changes).eraseDups
      (mainTempo initial changes finish) := by
  have spans : ∀ h ∈ stretches initial changes finish, 0.0 ≤ h.span ∧ 0.0 + h.span = h.span := by
    intro h inside
    obtain ⟨start, stop, same⟩ := stretches_spans inside
    rw [same]
    exact ⟨stretch_nonneg start stop, zero_add_stretch start stop⟩
  have bpms : ∀ h ∈ stretches initial changes finish, IsNumber h.bpm := by
    intro h inside
    have given := List.mem_map_of_mem (f := Holding.bpm) inside
    rw [stretches_bpms] at given
    rcases List.mem_cons.mp given with same | later
    · rwa [same]
    · obtain ⟨c, there, same⟩ := List.mem_map.mp later
      rw [← same]
      exact numbers c there
  let total := heldFor (stretches initial changes finish)
  have nonneg := heldFor_nonneg fun h inside => (spans h inside).1
  have totals_bpms := totals_eq _ bpms fun h inside => (spans h inside).2
  rw [stretches_bpms] at totals_bpms
  have scan : mainTempo initial changes finish = (longest ⟨initial, negInfinity⟩
      ((tempos initial changes).eraseDups.map fun bpm => ⟨bpm, total bpm⟩)).bpm := by
    rw [← totals_bpms, mainTempo, holdings_eq]
    rfl
  have numbers : ∀ e ∈ (tempos initial changes).eraseDups.map fun bpm => Holding.mk bpm (total bpm),
      IsNumber e.span := by
    intro e inside
    obtain ⟨bpm, -, rfl⟩ := List.mem_map.mp inside
    exact (isNumber_of_le (nonneg bpm)).2
  rw [scan]
  rcases longest_split ⟨initial, negInfinity⟩ _ isNumber_negInfinity numbers with
    ⟨-, below⟩ | ⟨front, rest, split, -, less, below⟩
  · have first : initial ∈ (tempos initial changes).eraseDups := by
      rw [tempos, List.eraseDups_cons]
      exact List.mem_cons_self
    have least := below _ (List.mem_map_of_mem first)
    have above : ¬(0.0 : Float) ≤ negInfinity := by decide +kernel
    exact absurd (Binary64.le_trans (nonneg initial) least) above
  · obtain ⟨before, others, whole, rfl, last⟩ := List.map_eq_append_iff.mp split
    obtain ⟨bpm, after, rfl, same, rfl⟩ := List.map_eq_cons_iff.mp last
    rw [← same] at less below ⊢
    exact ⟨before, after, whole, by simpa using less, by simpa using below⟩

theorem foldl_choice {R : Float → Float → Prop} {choose : Float → Float → Float}
    (trans : ∀ {x y z}, R x y → R y z → R x z)
    (chosen : ∀ {x y}, IsNumber x → IsNumber y →
      (choose x y = x ∨ choose x y = y) ∧ R (choose x y) x ∧ R (choose x y) y)
    {start : Float} {items : List Float} (number : IsNumber start)
    (numbers : ∀ x ∈ items, IsNumber x) :
    items.foldl choose start ∈ start :: items ∧
      ∀ x ∈ start :: items, R (items.foldl choose start) x := by
  induction items generalizing start with
  | nil =>
    obtain ⟨same, related, -⟩ := chosen number number
    rw [or_self] at same
    rw [same] at related
    exact ⟨List.mem_cons_self, by simpa using related⟩
  | cons x rest ih =>
    obtain ⟨here, later⟩ := List.forall_mem_cons.mp numbers
    obtain ⟨either, first, second⟩ := chosen number here
    have kept : IsNumber (choose start x) := by
      rcases either with same | same
      · rwa [same]
      · rwa [same]
    obtain ⟨inside, related⟩ := ih kept later
    obtain ⟨before, others⟩ := List.forall_mem_cons.mp related
    rw [List.foldl_cons]
    constructor
    · rcases List.mem_cons.mp inside with same | after
      · rw [same]
        rcases either with same | same
        · rw [same]
          exact List.mem_cons_self
        · rw [same]
          exact List.mem_cons_of_mem start List.mem_cons_self
      · exact List.mem_cons_of_mem start (List.mem_cons_of_mem x after)
    · exact List.forall_mem_cons.mpr ⟨trans before first,
        List.forall_mem_cons.mpr ⟨trans before second, others⟩⟩

theorem leastTempo_spec {initial : Float} {rest : List Float} (number : IsNumber initial)
    (numbers : ∀ bpm ∈ rest, IsNumber bpm) :
    leastTempo (initial :: rest) ∈ initial :: rest ∧
      ∀ bpm ∈ initial :: rest, leastTempo (initial :: rest) ≤ bpm := by
  have begun : leastTempo (initial :: rest) = rest.foldl smaller initial := by
    rw [leastTempo, List.foldl_cons, smaller_infinity number]
  rw [begun]
  exact foldl_choice (R := fun x y => x ≤ y) Binary64.le_trans
    (fun hx hy => ⟨smaller_cases hx hy, smaller_le_left hx hy, smaller_le_right hx hy⟩)
    number numbers

theorem greatestTempo_spec {initial : Float} {rest : List Float} (number : IsNumber initial)
    (numbers : ∀ bpm ∈ rest, IsNumber bpm) :
    greatestTempo (initial :: rest) ∈ initial :: rest ∧
      ∀ bpm ∈ initial :: rest, bpm ≤ greatestTempo (initial :: rest) := by
  have begun : greatestTempo (initial :: rest) = rest.foldl larger initial := by
    rw [greatestTempo, List.foldl_cons, larger_negInfinity number]
  rw [begun]
  exact foldl_choice (R := fun x y => y ≤ x) (fun first second => Binary64.le_trans second first)
    (fun hx hy => ⟨larger_cases hx hy, le_larger_left hx hy, le_larger_right hx hy⟩)
    number numbers

namespace Chart

theorem ofSource_tempos {source : Source}
    (named : ∀ id bpm, source.tempo? id = some bpm → IsNumber bpm) :
    ∀ c ∈ (ofSource source).tempoChanges, IsNumber c.bpm := by
  have tempos : (ofSource source).tempoChanges.map TempoChange.bpm =
      source.marks.filterMap (Mark.tempo? source) :=
    (stream_told fun mark clock => (place_tells source mark clock).tempos).trans
      (Source.told_filterMap ..)
  intro c inside
  have given := List.mem_map_of_mem (f := TempoChange.bpm) inside
  rw [tempos] at given
  obtain ⟨mark, -, said⟩ := List.mem_filterMap.mp given
  unfold Mark.tempo? at said
  split_ifs at said
  · rw [← Option.some.inj said]
    exact (ofNat_value _).1
  · exact named _ _ said

theorem ofSource_isPaced {source : Source}
    (named : ∀ id bpm, source.tempo? id = some bpm → IsNumber bpm) : (ofSource source).IsPaced := by
  have number : IsNumber (ofSource source).initialTempo :=
    isNumber_of_finite source.initialTempo_isFinite
  have changes := ofSource_tempos named
  have bpms : ∀ bpm ∈ (ofSource source).tempoChanges.map TempoChange.bpm, IsNumber bpm := by
    intro bpm inside
    obtain ⟨c, given, rfl⟩ := List.mem_map.mp inside
    exact changes c given
  have first := mainTempo_isFirstGreatest number changes (ofSource source).duration
  obtain ⟨least, below⟩ := leastTempo_spec number bpms
  obtain ⟨greatest, above⟩ := greatestTempo_spec number bpms
  have main : (ofSource source).mainTempo ∈
      tempos (ofSource source).initialTempo (ofSource source).tempoChanges := by
    obtain ⟨front, rest, split, -⟩ := first
    refine eraseDups_subset _ _ (split ▸ ?_)
    exact List.mem_append_right front List.mem_cons_self
  exact ⟨first, main, least, greatest, below, above, below _ main, above _ main⟩

theorem IsPaced.marked {chart : Chart} (paced : chart.IsPaced) (md5 sha256 : String) :
    ({ chart with md5, sha256 } : Chart).IsPaced :=
  ⟨paced.main, paced.main_mem, paced.min_mem, paced.max_mem, paced.min_le, paced.le_max,
    paced.between⟩

theorem ofText_isPaced {arithmetic : Arithmetic} {text : String} {chart : Chart}
    (compiled : ofText arithmetic text = .ok chart) : chart.IsPaced := by
  obtain ⟨source, md5, sha256, accepted, rfl⟩ := ofText_eq compiled
  have tempos := (Source.parse_isWellFormed accepted).tempos
  have paced := ofSource_isPaced fun id bpm found => isNumber_of_finite (tempos id bpm found).2
  exact paced.marked md5 sha256

/-- The main tempo is the first of the distinct tempos that is held longest in all, wherever the
changes and the end lie. So the main tempo of a chart is one of its tempos, between the least and
the greatest of them, which are figures of the chart; and so it is in the chart of any text. -/
theorem mainTempo_held_longest :
    (∀ (initial : Float) (changes : List TempoChange) (finish : Float),
      initial.isNaN = false → (∀ c ∈ changes, c.bpm.isNaN = false) →
      IsFirstGreatest (heldFor (stretches initial changes finish))
        (tempos initial changes).eraseDups (NoteChart.mainTempo initial changes finish)) ∧
    (∀ source : Source, (∀ id bpm, source.tempo? id = some bpm → bpm.isNaN = false) →
      (ofSource source).IsPaced) ∧
    ∀ arithmetic text chart, ofText arithmetic text = .ok chart → chart.IsPaced :=
  ⟨fun _ _ finish number numbers => mainTempo_isFirstGreatest number numbers finish,
    fun _ named => ofSource_isPaced named, fun _ _ _ compiled => ofText_isPaced compiled⟩

theorem mainTempo_held_longest_of_return :
    let changes : List TempoChange := [⟨20000.0, 200.0⟩, ⟨50000.0, 150.0⟩]
    NoteChart.mainTempo 150.0 changes 70000.0 = 150.0 ∧
      IsFirstGreatest (heldFor (stretches 150.0 changes 70000.0)) [150.0, 200.0] 150.0 ∧
      (ofSource slowed).IsPaced ∧
      ∃ chart, ofText .checked "#BPM 120\n#00003:3C\n#00101:01\n#00201:02" = .ok chart ∧
        chart.IsPaced := by
  intro changes
  obtain ⟨definition, built, compiled⟩ := mainTempo_held_longest
  have main : NoteChart.mainTempo 150.0 changes 70000.0 = 150.0 := by decide +kernel
  have distinct : (tempos 150.0 changes).eraseDups = [150.0, 200.0] := by decide +kernel
  have first := definition 150.0 changes 70000.0 (by decide) (by decide)
  rw [main, distinct] at first
  have none : ∀ id bpm, slowed.tempo? id = some bpm → bpm.isNaN = false := by
    rintro id bpm ⟨⟩
  obtain ⟨md5, sha256, made⟩ := ofText_of_parse .checked parse_slowed slowed_fits
  exact ⟨main, first, built slowed none, _, made, compiled _ _ _ made⟩

end Chart
end NoteChart
