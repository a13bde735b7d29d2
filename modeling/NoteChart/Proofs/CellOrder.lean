import NoteChart.Proofs.Interleaving
import NoteChart.Proofs.Standstill

/-!
The order of the cells of a measure. Two sorts make it, one of the rows by channel and one of the
cells by rounded position, and neither disturbs what the other leaves tied. The outcome is the order
by the exact fraction of the measure, unless rows are so long that doubles no longer tell their
fractions apart.

Rows come with the numbers of their lines, which measures do not look at: only the order of the rows
counts, so here each row is given its place among the rows as its number.
-/
namespace NoteChart

open Binary64

def numbered (rows : List Row) : List Row :=
  rows.zipIdx.map fun (row, index) => { row with line := index }

theorem numbered_lines (rows : List Row) :
    (numbered rows).Pairwise fun a b => a.line < b.line := by
  unfold numbered
  rw [List.pairwise_map]
  change rows.zipIdx.Pairwise fun a b => a.2 < b.2
  rw [← List.pairwise_map (f := Prod.snd) (R := (· < ·)), List.zipIdx_map_snd]
  exact List.pairwise_lt_range'

theorem numbered_dataOn (channel : UInt16) (rows : List Row) :
    Row.dataOn channel (numbered rows) = Row.dataOn channel rows := by
  unfold Row.dataOn numbered
  generalize 0 = first
  induction rows generalizing first with
  | nil => rfl
  | cons row rest ih =>
    rw [List.zipIdx_cons, List.map_cons, List.filter_cons, List.filter_cons]
    dsimp only
    split_ifs
    · rw [List.map_cons, List.map_cons, ih]
    · exact ih (first + 1)

theorem numbered_cells (rows : List Row) : measureCells (numbered rows) = measureCells rows :=
  measureCells_congr fun channel _ => numbered_dataOn channel rows

namespace Mark

def fraction (mark : Mark) : ℚ := mark.place / mark.count

/-- What decides between cells at one part of the measure. -/
def turn (mark : Mark) : List Nat := mark.tie :: mark.seat

section Fractions

variable {a b : Mark} (inside : a.place < a.count) (inside' : b.place < b.count)

include inside inside'

theorem fraction_lt_iff : a.fraction < b.fraction ↔ a.place * b.count < b.place * a.count := by
  have left : (0 : ℚ) < a.count := by exact_mod_cast Nat.zero_lt_of_lt inside
  have right : (0 : ℚ) < b.count := by exact_mod_cast Nat.zero_lt_of_lt inside'
  unfold fraction
  rw [div_lt_div_iff₀ left right]
  exact_mod_cast Iff.rfl

theorem fraction_eq_iff : a.fraction = b.fraction ↔ a.place * b.count = b.place * a.count := by
  have left : (a.count : ℚ) ≠ 0 := by exact_mod_cast (Nat.zero_lt_of_lt inside).ne'
  have right : (b.count : ℚ) ≠ 0 := by exact_mod_cast (Nat.zero_lt_of_lt inside').ne'
  unfold fraction
  rw [div_eq_div_iff left right]
  exact_mod_cast Iff.rfl

theorem order_of_rank (short : a.count < 2 ^ 26) (short' : b.count < 2 ^ 26)
    (same : a.measure = b.measure) (before : a.rank < b.rank) :
    a.fraction < b.fraction ∨ a.fraction = b.fraction ∧ a.turn < b.turn := by
  have wide {k : Nat} (small : k < 2 ^ 26) : k < 2 ^ 53 := small.trans (by norm_num)
  change a.measure :: (totalKey a.position).toNat :: a.turn <
    b.measure :: (totalKey b.position).toNat :: b.turn at before
  rw [List.cons_lt_cons_iff, List.cons_lt_cons_iff, same] at before
  have before := (before.resolve_left (Nat.lt_irrefl _)).2
  rw [fraction_lt_iff inside inside', fraction_eq_iff inside inside']
  rcases lt_trichotomy (a.place * b.count) (b.place * a.count) with less | equal | more
  · exact Or.inl less
  · have bits : a.position.toBits = b.position.toBits :=
      fraction_toBits inside inside' (wide short) (wide short') equal
    have keys : totalKey a.position = totalKey b.position := by simp only [totalKey, bits]
    rw [keys] at before
    exact Or.inr ⟨equal, (before.resolve_left (Nat.lt_irrefl _)).2⟩
  · have later : b.position < a.position := fraction_lt inside' inside short' short more
    have keys : totalKey a.position ≤ totalKey b.position := by
      rw [UInt64.le_iff_toNat_le]
      omega
    obtain ⟨number, number', -⟩ := lt_iff.mp later
    have first := le_of_totalKey_le number' number keys
    exact absurd later (Binary64.not_lt_of_le first)

end Fractions

end Mark

/-- The cells of a measure are all that its rows say, once each, in one order: by the part of the
measure before the cell, then tempo changes before stops and the rest between them, then by channel,
by row and by place in the row. A position is the double nearest to that part of the measure, and
less than 1, as long as doubles can count the cells of the row. -/
theorem measureCells_ordered (measure : Nat) (rows : List Row) :
    ∃ marks : List Mark, measureCells rows = marks.map Mark.cell ∧ marks.Nodup ∧
      (∀ mark, mark ∈ marks ↔ mark.measure = measure ∧ mark.row ∈ numbered rows ∧
        mark.row.channel ∈ cellChannels ∧ mark.row.valueAt? mark.place = some mark.value) ∧
      (∀ mark ∈ marks, mark.count < 2 ^ 53 →
        (IsNumber mark.position ∧ value mark.position = nearest ((mark.fraction : ℝ) : EReal)) ∧
        0.0 ≤ mark.position ∧ mark.position < 1.0) ∧
      marks.Pairwise fun a b => a.count < 2 ^ 26 → b.count < 2 ^ 26 →
        a.fraction < b.fraction ∨ a.fraction = b.fraction ∧ a.turn < b.turn := by
  have ranks := measureMarks_ranks measure (numbered_lines rows)
  have member {mark : Mark} : mark ∈ measureMarks measure (numbered rows) ↔ _ := mem_measureMarks
  have inside {mark : Mark} (given : mark ∈ measureMarks measure (numbered rows)) :
      mark.place < mark.count := Row.valueAt?_inside (member.mp given).2.2.2
  refine ⟨measureMarks measure (numbered rows), ?_, ?_, fun mark => member, ?_, ?_⟩
  · rw [measureMarks_cells, numbered_cells]
  · apply ranks.imp
    rintro a b before rfl
    exact List.lt_irrefl _ before
  · intro mark given short
    have below := inside given
    refine ⟨?_, fraction_bounds below short⟩
    have rounded := div_ofNat_value (Nat.zero_lt_of_lt below) (below.trans short) short
    have cast : ((mark.fraction : ℚ) : ℝ) = mark.place / mark.count := by
      simp [Mark.fraction]
    rw [cast]
    exact rounded
  · apply ranks.imp_of_mem
    intro a b ha hb before short short'
    have same : a.measure = b.measure := (member.mp ha).1.trans (member.mp hb).1.symm
    exact Mark.order_of_rank (inside ha) (inside hb) short short' same before

theorem measureCells_ordered_of_two_rows :
    let stop : Mark := ⟨0, ⟨0x09, "00000B00", 0⟩, 2, 11⟩
    let note : Mark := ⟨0, ⟨0x11, "0001", 1⟩, 1, 1⟩
    ∃ marks : List Mark,
      measureCells [⟨0x09, "00000B00", 3⟩, ⟨0x11, "0001", 4⟩] = marks.map Mark.cell ∧
      (stop ∈ marks ∧ note ∈ marks ∧ ¬[stop, note].Sublist marks) ∧
      stop.fraction = note.fraction ∧ stop.position < 1.0 := by
  intro stop note
  obtain ⟨marks, same, -, member, positions, ordered⟩ :=
    measureCells_ordered 0 [⟨0x09, "00000B00", 3⟩, ⟨0x11, "0001", 4⟩]
  have stop_mem : stop ∈ marks := (member stop).mpr (by decide +kernel)
  have note_mem : note ∈ marks := (member note).mpr (by decide +kernel)
  refine ⟨marks, same, ⟨stop_mem, note_mem, ?_⟩, by decide +kernel,
    (positions stop stop_mem (by decide +kernel)).2.2⟩
  intro first
  have before := List.rel_of_pairwise_cons (ordered.sublist first) List.mem_cons_self
    (by decide +kernel) (by decide +kernel)
  revert before
  decide +kernel

end NoteChart
