import NoteChart.Measure
import NoteChart.Proofs.Binary64.Order
import NoteChart.Proofs.Source.Reading

/-!
The cells of one measure. Every cell is placed at a part of the measure between 0 and 1, and the
cells come in the order of their places. The length of a measure is a positive finite number.
-/
namespace NoteChart

open Binary64

def Cell.IsInside (cell : Cell) : Prop := 0.0 ≤ cell.position ∧ cell.position ≤ 1.0

theorem Cell.IsInside.isFinite {cell : Cell} (inside : cell.IsInside) :
    cell.position.isFinite = true :=
  isFinite_of_between inside.1 inside.2 (by decide) (by decide)

theorem pairs_length (bytes : List UInt8) : (pairs bytes).length = bytes.length / 2 := by
  fun_induction pairs bytes with
  | case1 a b rest ih =>
    simp only [List.length_cons, ih]
    omega
  | case2 bytes single =>
    rcases bytes with _ | ⟨a, _ | ⟨b, rest⟩⟩
    · rfl
    · simp
    · exact absurd rfl (single a b rest)

namespace Row

theorem rawCells_length_le (row : Row) :
    row.rawCells.length ≤ (Text.Utf8.encode row.data.toList).length := by
  rw [rawCells, pairs_length]
  exact Nat.div_le_self _ _

theorem cellAt?_isInside {row : Row} {count i : Nat} {raw : UInt8 × UInt8} {cell : Cell}
    (word : count < UInt64.size) (below : i < count) (found : row.cellAt? count raw i = some cell) :
    cell.IsInside := by
  unfold cellAt? at found
  split at found
  · split at found
    · cases found
    · cases found
      have positive : 0.0 < Float.ofNat count := ofNat_pos (by omega)
      exact ⟨Binary64.div_nonneg (ofNat_nonneg i) positive (ofNat_isFinite word),
        Binary64.div_le_one (ofNat_mono below.le) positive (ofNat_isFinite word)⟩
  · cases found

theorem cells_isInside {row : Row}
    (word : (Text.Utf8.encode row.data.toList).length < UInt64.size) :
    ∀ cell ∈ row.cells, cell.IsInside := by
  intro cell inside
  unfold cells at inside
  split at inside
  · obtain ⟨⟨raw, i⟩, place, found⟩ := List.mem_filterMap.mp inside
    have below : i < row.rawCells.length := List.snd_lt_of_mem_zipIdx place
    exact cellAt?_isInside (row.rawCells_length_le.trans_lt word) below found
  · cases inside

end Row

namespace Cell

theorem precedes_iff {a b : Cell} :
    a.precedes b = true ↔
      totalKey a.position < totalKey b.position ∨
      totalKey a.position = totalKey b.position ∧ a.content.tieClass ≤ b.content.tieClass := by
  simp [precedes]

theorem precedes_trans {a b c : Cell} (first : a.precedes b = true)
    (second : b.precedes c = true) : a.precedes c = true := by
  rw [precedes_iff] at first second ⊢
  simp only [UInt64.lt_iff_toNat_lt, ← UInt64.toNat_inj] at first second ⊢
  omega

theorem precedes_total (a b : Cell) : (a.precedes b || b.precedes a) = true := by
  rw [Bool.or_eq_true, precedes_iff, precedes_iff]
  simp only [UInt64.lt_iff_toNat_lt, ← UInt64.toNat_inj]
  omega

theorem position_le_of_precedes {a b : Cell} (ha : a.IsInside) (hb : b.IsInside)
    (first : a.precedes b = true) : a.position ≤ b.position := by
  refine le_of_totalKey_le (isNumber_of_le ha.1).2 (isNumber_of_le hb.1).2 ?_
  rw [precedes_iff] at first
  simp only [UInt64.lt_iff_toNat_lt, ← UInt64.toNat_inj, UInt64.le_iff_toNat_le] at first ⊢
  omega

end Cell

def AreShort (rows : List Row) : Prop :=
  ∀ row ∈ rows, (Text.Utf8.encode row.data.toList).length < UInt64.size

theorem measureCells_isInside {rows : List Row} (short : AreShort rows) :
    ∀ cell ∈ measureCells rows, cell.IsInside := by
  intro cell inside
  unfold measureCells at inside
  rw [List.mem_mergeSort] at inside
  obtain ⟨row, given, inside⟩ := List.mem_flatMap.mp inside
  exact Row.cells_isInside (short row (List.mem_mergeSort.mp given)) cell inside

theorem measureCells_sorted {rows : List Row} (short : AreShort rows) :
    (measureCells rows).Pairwise fun a b => a.position ≤ b.position := by
  have inside := measureCells_isInside short
  have sorted : (measureCells rows).Pairwise fun a b => a.precedes b = true := by
    unfold measureCells
    apply List.pairwise_mergeSort
    · intro a b c
      exact Cell.precedes_trans
    · exact Cell.precedes_total
  refine sorted.imp_of_mem ?_
  intro a b ha hb first
  exact Cell.position_le_of_precedes (inside a ha) (inside b hb) first

theorem measureCells_single (row : Row) {cell : Cell} (only : row.cells = [cell]) :
    measureCells [row] = [cell] := by
  simp [measureCells, only]

theorem measureLength_pos (rows : List Row) :
    0.0 < measureLength rows ∧ (measureLength rows).isFinite = true := by
  have one : (0.0 : Float) < 1.0 ∧ (1.0 : Float).isFinite = true := ⟨by decide, by decide⟩
  unfold measureLength
  cases (rows.filter fun row => row.content = .measureLength).getLast? with
  | none => exact one
  | some row =>
    dsimp only
    cases read : Decimal.readFinite? row.data.toList with
    | none => exact one
    | some length =>
      by_cases positive : 0.0 < length
      · simp only [if_pos positive]
        exact ⟨positive, Decimal.readFinite?_isFinite read⟩
      · simp only [if_neg positive]
        exact one

end NoteChart
