import NoteChart.Chart.Compile
import NoteChart.Proofs.Cells

/-!
What a chart depends on. A source makes its statements in one order, but a chart takes no notice of
how statements about different things are interleaved: two sources make one chart if they agree on
each header, tempo and stop, on the last measure, and on the data of each row that means something,
channel by channel.
-/
namespace NoteChart

section Sorting

variable {α κ : Type} (key : α → κ)

theorem mergeSort_sorted [LE κ] [DecidableLE κ] [Std.IsLinearOrder κ] (items : List α) :
    (items.mergeSort fun a b => key a ≤ key b).Pairwise (key · ≤ key ·) := by
  have sorted : (items.mergeSort fun a b => key a ≤ key b).Pairwise fun a b =>
      decide (key a ≤ key b) = true := by
    apply List.pairwise_mergeSort
    · simpa using fun a b c => Std.le_trans
    · simpa using fun a b => Std.le_total
  exact sorted.imp fun ordered => of_decide_eq_true ordered

variable [DecidableEq κ]

theorem mem_of_filter {xs ys : List α}
    (same : ∀ k, xs.filter (key · = k) = ys.filter (key · = k)) {a : α} : a ∈ xs ↔ a ∈ ys := by
  have both := congrArg (a ∈ ·) (same (key a))
  simpa using both

variable [LE κ] [Std.IsLinearOrder κ]

theorem filter_mergeSort [DecidableLE κ] (items : List α) (k : κ) :
    (items.mergeSort fun a b => key a ≤ key b).filter (key · = k) = items.filter (key · = k) := by
  have tied : (items.filter (key · = k)).Pairwise fun a b => decide (key a ≤ key b) = true := by
    refine List.pairwise_of_forall_mem_list ?_
    intro a ha b hb
    have ka := of_decide_eq_true (List.mem_filter.mp ha).2
    have kb := of_decide_eq_true (List.mem_filter.mp hb).2
    rw [ka, kb]
    exact decide_eq_true (Std.le_refl k)
  have kept := List.sublist_mergeSort (by simpa using fun a b c => Std.le_trans)
    (by simpa using fun a b => Std.le_total) tied List.filter_sublist
  have inside := kept.filter (key · = k)
  rw [List.filter_filter] at inside
  simp only [Bool.and_self] at inside
  refine (inside.eq_of_length ?_).symm
  exact ((List.mergeSort_perm items _).filter _).length_eq.symm

/-- A sorted list is known from its parts with one key each. -/
theorem eq_of_sorted_of_filter {xs ys : List α} (sorted : xs.Pairwise (key · ≤ key ·))
    (sorted' : ys.Pairwise (key · ≤ key ·))
    (same : ∀ k, xs.filter (key · = k) = ys.filter (key · = k)) : xs = ys := by
  induction xs generalizing ys with
  | nil =>
    refine (List.eq_nil_iff_forall_not_mem.mpr ?_).symm
    intro a inside
    cases (mem_of_filter key same).mpr inside
  | cons x xs ih =>
    have shared {a : α} := mem_of_filter key same (a := a)
    cases ys with
    | nil => cases shared.mp List.mem_cons_self
    | cons y ys =>
      -- either list has a least key in front, and both have the same keys
      have tied : key y = key x := by
        rcases List.mem_cons.mp (shared.mpr List.mem_cons_self) with equal | inside
        · exact congrArg key equal
        · rcases List.mem_cons.mp (shared.mp List.mem_cons_self) with equal | inside'
          · exact congrArg key equal.symm
          · exact Std.le_antisymm (List.rel_of_pairwise_cons sorted' inside')
              (List.rel_of_pairwise_cons sorted inside)
      have heads := same (key x)
      simp only [List.filter_cons, tied, decide_true, if_true] at heads
      obtain ⟨rfl, -⟩ := List.cons.inj heads
      congr 1
      refine ih sorted.of_cons sorted'.of_cons fun k => ?_
      have tails := same k
      rw [List.filter_cons, List.filter_cons] at tails
      split_ifs at tails with first
      · exact (List.cons.inj tails).2
      · exact tails

end Sorting

theorem max?_congr {xs ys : List Nat} (same : ∀ n, n ∈ xs ↔ n ∈ ys) : xs.max? = ys.max? := by
  cases greatest : ys.max? with
  | none =>
    rw [List.max?_eq_none_iff] at greatest ⊢
    simpa [greatest, List.eq_nil_iff_forall_not_mem] using same
  | some m =>
    rw [List.max?_eq_some_iff] at greatest ⊢
    simpa only [same] using greatest

namespace Row

def unnumbered (row : Row) : Row := { row with line := 0 }

theorem unnumbered_eq {row : Row} {channel : UInt16} (same : row.channel = channel) :
    row.unnumbered = ⟨channel, row.data, 0⟩ := by
  subst same
  rfl

def dataOn (channel : UInt16) (rows : List Row) : List String :=
  (rows.filter (·.channel = channel)).map Row.data

theorem dataOn_unnumbered (channel : UInt16) (rows : List Row) :
    (rows.filter (·.channel = channel)).map unnumbered =
      (dataOn channel rows).map (⟨channel, ·, 0⟩) := by
  rw [dataOn, List.map_map]
  refine List.map_congr_left ?_
  intro row given
  exact unnumbered_eq (of_decide_eq_true (List.mem_filter.mp given).2)

end Row

def sortedRows (rows : List Row) : List Row :=
  ((rows.mergeSort fun a b => a.channel ≤ b.channel).filter (·.content.hasCells)).map Row.unnumbered

theorem sortedRows_sorted (rows : List Row) :
    (sortedRows rows).Pairwise (·.channel ≤ ·.channel) := by
  unfold sortedRows
  apply List.pairwise_map.mpr
  exact (mergeSort_sorted Row.channel rows).filter _

theorem sortedRows_filter (rows : List Row) (channel : UInt16) :
    (sortedRows rows).filter (·.channel = channel) =
      if (Content.ofChannel channel).hasCells then
        (Row.dataOn channel rows).map (⟨channel, ·, 0⟩)
      else [] := by
  have kept := filter_mergeSort Row.channel rows channel
  unfold sortedRows
  rw [List.filter_map, List.filter_filter]
  split_ifs with has
  · rw [← Row.dataOn_unnumbered, ← kept]
    refine congrArg _ (List.filter_congr ?_)
    intro row given
    have both : row.channel = channel → row.content.hasCells = true := by
      rintro rfl
      exact has
    change (decide (row.channel = channel) && row.content.hasCells) = decide (row.channel = channel)
    rw [Bool.eq_iff_iff]
    simpa using both
  · refine List.map_eq_nil_iff.mpr (List.filter_eq_nil_iff.mpr ?_)
    intro row given both
    simp only [Function.comp_apply, Bool.and_eq_true, decide_eq_true_eq] at both
    obtain ⟨rfl, cells⟩ := both
    exact has cells

theorem measureCells_eq (rows : List Row) :
    measureCells rows = ((sortedRows rows).flatMap Row.cells).mergeSort Cell.precedes := by
  have cells : ∀ rows : List Row,
      ((rows.filter (·.content.hasCells)).map Row.unnumbered).flatMap Row.cells =
        rows.flatMap Row.cells := by
    intro rows
    induction rows with
    | nil => rfl
    | cons row rest ih =>
      rw [List.filter_cons, List.flatMap_cons, ← ih]
      split_ifs with has
      · rfl
      · have none : row.cells = [] := if_neg has
        rw [none, List.nil_append]
  unfold measureCells sortedRows
  rw [cells]

section Rows

variable {rows others : List Row} (same : ∀ channel, Content.ofChannel channel ≠ .nothing →
  Row.dataOn channel rows = Row.dataOn channel others)

include same

theorem measureLength_congr : measureLength rows = measureLength others := by
  have length (row : Row) : row.content = .measureLength ↔ row.channel = 0x02 :=
    (Content.ofChannel_isOf row.channel).length.symm
  have last : (rows.filter (·.channel = 0x02)).getLast?.map Row.data =
      (others.filter (·.channel = 0x02)).getLast?.map Row.data := by
    rw [← List.getLast?_map, ← List.getLast?_map]
    exact congrArg List.getLast? (same 0x02 (by decide))
  unfold measureLength
  simp only [length]
  cases found : (rows.filter (·.channel = 0x02)).getLast? with
  | none =>
    rw [found, Option.map_none, eq_comm, Option.map_eq_none_iff] at last
    rw [last]
  | some row =>
    rw [found, Option.map_some, eq_comm, Option.map_eq_some_iff] at last
    obtain ⟨other, found', data⟩ := last
    rw [found']
    dsimp only
    rw [data]

theorem sortedRows_congr : sortedRows rows = sortedRows others := by
  refine eq_of_sorted_of_filter Row.channel (sortedRows_sorted rows) (sortedRows_sorted others) ?_
  intro channel
  rw [sortedRows_filter, sortedRows_filter]
  split_ifs with has
  · refine congrArg _ (same channel ?_)
    intro nothing
    rw [nothing] at has
    cases has
  · rfl

theorem measureCells_congr : measureCells rows = measureCells others := by
  rw [measureCells_eq, measureCells_eq, sortedRows_congr same]

end Rows

namespace Source

def dataOn (source : Source) (measure : Nat) (channel : UInt16) : List String :=
  Row.dataOn channel (source.rows measure)

/-- Two sources from which a chart learns the same. -/
structure Agrees (a b : Source) : Prop where
  headers : ∀ key, a.header? key = b.header? key
  tempos : ∀ id, a.tempo? id = b.tempo? id
  stops : ∀ id, a.stop? id = b.stop? id
  last : a.lastMeasure? = b.lastMeasure?
  rows : ∀ measure channel, Content.ofChannel channel ≠ .nothing →
    a.dataOn measure channel = b.dataOn measure channel

end Source

theorem Cell.place_congr {a b : Source} (tempos : ∀ id, a.tempo? id = b.tempo? id)
    (stops : ∀ id, a.stop? id = b.stop? id) : Cell.place a = Cell.place b := by
  funext cell clock
  unfold Cell.place
  simp only [tempos, stops]

theorem walkCells_congr {a b : Source} (place : Cell.place a = Cell.place b) (length : Float)
    (cells : List Cell) (position : Float) (clock : Clock) :
    walkCells a length cells position clock = walkCells b length cells position clock := by
  induction cells generalizing position clock with
  | nil => rfl
  | cons cell rest ih => simp only [walkCells, place, ih]

namespace Source.Agrees

variable {a b : Source} (agrees : a.Agrees b)

include agrees

theorem place : Cell.place a = Cell.place b :=
  Cell.place_congr agrees.tempos agrees.stops

theorem walkMeasure (measure : Nat) (clock : Clock) :
    NoteChart.walkMeasure a measure clock = NoteChart.walkMeasure b measure clock := by
  have rows := agrees.rows measure
  unfold NoteChart.walkMeasure
  dsimp only
  rw [measureLength_congr rows, measureCells_congr rows]
  exact walkCells_congr agrees.place _ _ _ _

theorem walkMeasures (measures : List Nat) (clock : Clock) :
    NoteChart.walkMeasures a measures clock = NoteChart.walkMeasures b measures clock := by
  induction measures generalizing clock with
  | nil => rfl
  | cons measure rest ih => simp only [NoteChart.walkMeasures, agrees.walkMeasure, ih]

theorem initialTempo : a.initialTempo = b.initialTempo := by
  unfold Source.initialTempo
  rw [agrees.headers]

theorem timeline : a.timeline = b.timeline := by
  have measures : a.measures = b.measures := by
    unfold Source.measures
    rw [agrees.last]
  unfold Source.timeline
  rw [agrees.walkMeasures, agrees.initialTempo, measures]

theorem chart : Chart.ofSource a = Chart.ofSource b := by
  have text (key : String) : a.text key = b.text key := by
    unfold Source.text
    rw [agrees.headers]
  have playLevel : a.playLevel = b.playLevel := by
    unfold Source.playLevel
    rw [agrees.headers]
  have rank : a.rank = b.rank := by
    unfold Source.rank
    rw [agrees.headers]
  have total (noteCount : Nat) : a.total noteCount = b.total noteCount := by
    unfold Source.total
    rw [agrees.headers]
  unfold Chart.ofSource
  simp only [agrees.timeline, agrees.initialTempo, text, playLevel, rank, total]

end Source.Agrees

inductive Subject where
  | header (key : String)
  | tempo (id : ObjectId)
  | stop (id : ObjectId)
  | row (measure : Nat) (channel : UInt16)
deriving DecidableEq

namespace Statement

def subject : Statement → Subject
  | .header key _ => .header key
  | .tempo id _ => .tempo id
  | .stop id _ => .stop id
  | .row measure r => .row measure r.channel

def unnumbered : Statement → Statement
  | .row measure r => .row measure r.unnumbered
  | statement => statement

def data? (measure : Nat) (channel : UInt16) : Statement → Option String
  | .row m r => if m = measure ∧ r.channel = channel then some r.data else none
  | _ => none

end Statement

namespace Source

/-- The statements about one thing, without the numbers of their lines. -/
def about (source : Source) (subject : Subject) : List Statement :=
  (source.statements.filter (·.subject = subject)).map Statement.unnumbered

theorem dataOn_eq (source : Source) (measure : Nat) (channel : UInt16) :
    source.dataOn measure channel = source.statements.filterMap (Statement.data? measure channel) := by
  unfold dataOn Row.dataOn rows
  rw [← List.filterMap_eq_filter, List.filterMap_filterMap, List.map_filterMap]
  refine List.filterMap_congr ?_
  intro statement given
  cases statement with
  | row m row =>
    by_cases same : m = measure <;> by_cases on : row.channel = channel <;>
      simp [Statement.row?, Statement.data?, same, on]
  | _ => rfl

theorem filterMap_about {α : Type} (source : Source) {read : Statement → Option α}
    {subject : Subject}
    (only : ∀ statement, statement.subject ≠ subject → read statement = none)
    (blind : ∀ statement : Statement, read statement.unnumbered = read statement) :
    source.statements.filterMap read = (source.about subject).filterMap read := by
  unfold about
  rw [List.filterMap_map, List.filterMap_filter]
  refine List.filterMap_congr ?_
  intro statement given
  rw [Function.comp_apply, blind]
  split_ifs with same
  · rfl
  · exact only statement (by simpa using same)

theorem mem_measures_iff {source : Source} {measure : Nat} :
    measure ∈ source.statements.filterMap Statement.measure? ↔
      ∃ channel, source.about (.row measure channel) ≠ [] := by
  rw [List.mem_filterMap]
  constructor
  · rintro ⟨statement, given, found⟩
    cases statement with
    | row m row =>
      cases found
      refine ⟨row.channel, List.ne_nil_of_mem (List.mem_map_of_mem (List.mem_filter.mpr ⟨given, ?_⟩))⟩
      exact decide_eq_true rfl
    | _ => cases found
  · rintro ⟨channel, present⟩
    obtain ⟨_, inside⟩ := List.exists_mem_of_ne_nil _ present
    obtain ⟨statement, inside, -⟩ := List.mem_map.mp inside
    obtain ⟨given, same⟩ := List.mem_filter.mp inside
    cases statement with
    | row m row =>
      cases of_decide_eq_true same
      exact ⟨_, given, rfl⟩
    | _ => cases of_decide_eq_true same

theorem agrees_of_about {a b : Source} (same : ∀ subject, a.about subject = b.about subject) :
    a.Agrees b := by
  have alike {α : Type} {read : Statement → Option α} (subject : Subject)
      (only : ∀ statement, statement.subject ≠ subject → read statement = none)
      (blind : ∀ statement : Statement, read statement.unnumbered = read statement) :
      a.statements.filterMap read = b.statements.filterMap read := by
    rw [a.filterMap_about only blind, b.filterMap_about only blind, same]
  refine ⟨?_, ?_, ?_, ?_, ?_⟩
  · intro key
    refine congrArg List.getLast? (alike (.header key) ?_ ?_)
    · rintro ⟨⟩ <;> simp [Statement.subject, Statement.header?]
    · rintro ⟨⟩ <;> rfl
  · intro id
    refine congrArg List.getLast? (alike (.tempo id) ?_ ?_)
    · rintro ⟨⟩ <;> simp [Statement.subject, Statement.tempo?]
    · rintro ⟨⟩ <;> rfl
  · intro id
    refine congrArg List.getLast? (alike (.stop id) ?_ ?_)
    · rintro ⟨⟩ <;> simp [Statement.subject, Statement.stop?]
    · rintro ⟨⟩ <;> rfl
  · refine max?_congr fun measure => ?_
    simp only [mem_measures_iff, same]
  · intro measure channel used
    rw [dataOn_eq, dataOn_eq]
    refine alike (.row measure channel) ?_ ?_
    · rintro ⟨⟩ <;> simp [Statement.subject, Statement.data?]
    · rintro ⟨⟩ <;> rfl

theorem agrees_of_ignored {front back : List Statement} {measure last : Nat} {row : Row}
    (ignored : Content.ofChannel row.channel = .nothing)
    (existing : (Source.mk (front ++ back)).lastMeasure? = some last) (inside : measure ≤ last) :
    (Source.mk (front ++ .row measure row :: back)).Agrees ⟨front ++ back⟩ := by
  have silent {α : Type} {read : Statement → Option α} (none : read (.row measure row) = none) :
      (front ++ .row measure row :: back).filterMap read = (front ++ back).filterMap read := by
    simp [none]
  refine ⟨?_, ?_, ?_, ?_, ?_⟩
  · exact fun key => congrArg List.getLast? (silent rfl)
  · exact fun id => congrArg List.getLast? (silent rfl)
  · exact fun id => congrArg List.getLast? (silent rfl)
  · rw [existing]
    unfold lastMeasure? at existing ⊢
    rw [List.max?_eq_some_iff] at existing ⊢
    obtain ⟨present, greatest⟩ := existing
    simp only [List.filterMap_append, List.filterMap_cons, Statement.measure?, List.mem_append,
      List.mem_cons] at present greatest ⊢
    refine ⟨by tauto, ?_⟩
    rintro other (before | rfl | after)
    · exact greatest other (Or.inl before)
    · exact inside
    · exact greatest other (Or.inr after)
  · intro m channel used
    rw [dataOn_eq, dataOn_eq]
    refine silent (if_neg ?_)
    rintro ⟨-, rfl⟩
    exact used ignored

end Source

/-- Sources that say the same make the same chart. So it does not matter in which order a source
makes its statements, as long as those about one thing keep theirs, nor on which lines; and a row
on a channel without meaning adds nothing to a measure of the chart. -/
theorem Chart.ofSource_determined :
    (∀ a b : Source, a.Agrees b → ofSource a = ofSource b) ∧
    (∀ a b : Source, (∀ subject, a.about subject = b.about subject) →
      ofSource a = ofSource b) ∧
    ∀ (front back : List Statement) (measure last : Nat) (row : Row),
      Content.ofChannel row.channel = .nothing →
      (Source.mk (front ++ back)).lastMeasure? = some last → measure ≤ last →
      ofSource ⟨front ++ .row measure row :: back⟩ = ofSource ⟨front ++ back⟩ :=
  ⟨fun _ _ agrees => agrees.chart, fun _ _ same => (Source.agrees_of_about same).chart,
    fun _ _ _ _ _ ignored existing inside =>
      (Source.agrees_of_ignored ignored existing inside).chart⟩

theorem Chart.ofSource_determined_of_two_rows :
    let a : Source :=
      ⟨[.header "TITLE" "x", .row 0 ⟨0x11, "0100", 2⟩, .row 0 ⟨0x01, "02", 3⟩]⟩
    let b : Source :=
      ⟨[.row 0 ⟨0x01, "02", 1⟩, .header "TITLE" "x", .row 0 ⟨0x11, "0100", 4⟩]⟩
    let c : Source :=
      ⟨[.row 0 ⟨0x01, "02", 1⟩, .row 0 ⟨0x99, "03", 2⟩, .header "TITLE" "x",
        .row 0 ⟨0x11, "0100", 4⟩]⟩
    Source.parse "#TITLE x\n#00011:0100\n#00001:02" = .ok a ∧
      Source.parse "#00001:02\n#00099:03\n#TITLE x\n#00011:0100" = .ok c ∧
      ofSource a = ofSource c ∧ ofSource a = ofSource b ∧ ofSource c = ofSource b := by
  intro a b c
  obtain ⟨agreeing, reordered, ignored⟩ := ofSource_determined
  refine ⟨by rfl, by rfl, agreeing a c ⟨?_, ?_, ?_, ?_, ?_⟩, reordered a b ?_, ?_⟩
  · exact fun key => rfl
  · exact fun id => rfl
  · exact fun id => rfl
  · rfl
  · intro measure channel used
    have other : channel ≠ 0x99 := by
      rintro rfl
      exact used (by decide)
    rw [Source.dataOn_eq, Source.dataOn_eq]
    simp only [a, c, List.filterMap_cons, List.filterMap_nil, Statement.data?, Ne.symm other,
      and_false, if_false]
    by_cases played : 0 = measure ∧ 0x11 = channel
    · have unheard : ¬(0 = measure ∧ 0x01 = channel) := by
        rintro ⟨-, heard⟩
        exact absurd (played.2.trans heard.symm) (by decide)
      rw [if_pos played, if_neg unheard]
    · rw [if_neg played]
  · intro subject
    unfold Source.about
    simp only [a, b, List.filter_cons, List.filter_nil, Statement.subject]
    by_cases played : Subject.row 0 0x11 = subject
    · subst played
      rfl
    · by_cases title : Subject.header "TITLE" = subject
      · subst title
        rfl
      · by_cases heard : Subject.row 0 0x01 = subject
        · subst heard
          rfl
        · simp [played, title, heard]
  · exact ignored [.row 0 ⟨0x01, "02", 1⟩] [.header "TITLE" "x", .row 0 ⟨0x11, "0100", 4⟩] 0 0
      ⟨0x99, "03", 2⟩ (by decide) (by decide) (by decide)

end NoteChart
