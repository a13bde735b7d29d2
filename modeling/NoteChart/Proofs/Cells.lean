import NoteChart.Proofs.Channel
import NoteChart.Proofs.Measure
import NoteChart.Proofs.Text.Utf8

/-!
What a measure says, cell by cell. A cell is the two bytes at an even place of a row; its text is a
hexadecimal word on the channel of tempos and the name of an object on all others, and it counts
unless it cannot be read or is zero. The cells of all measures are in one strict order, so each of
them is there once.
-/
namespace NoteChart

open Text

def cellText (a b : UInt8) : List Char := ((Utf8.decode [a, b]).mapM id).getD []

def readHexWord? (text : List Char) : Option UInt16 :=
  let digits := if text.head? = some '+' then text.tail else text
  if digits = [] then none
  else (digits.mapM hexDigit?).bind fun values =>
    let n := values.foldl (fun n digit => n * 16 + digit) 0
    if n < UInt16.size then some (.ofNat n) else none

def readCell? (channel : UInt16) (text : List Char) : Option UInt16 :=
  if channel = 0x03 then readHexWord? text else (ObjectId.ofChars? text).map ObjectId.number

theorem char_le_iff {a b : Char} : a ≤ b ↔ a.toNat ≤ b.toNat := by
  rw [Char.le_def, UInt32.le_iff_toNat_le]
  rfl

theorem hexDigit?_lt {c : Char} {n : Nat} (digit : hexDigit? c = some n) : n < 16 := by
  unfold hexDigit? at digit
  simp only [Bool.and_eq_true, decide_eq_true_eq, char_le_iff] at digit
  have codes : '9'.toNat = '0'.toNat + 9 ∧ 'F'.toNat = 'A'.toNat + 5 ∧
      'f'.toNat = 'a'.toNat + 5 := by decide
  split_ifs at digit <;> cases digit <;> omega

theorem tempoLiteral?_eq (a b : Char) : tempoLiteral? a b = readHexWord? [a, b] := by
  unfold tempoLiteral? readHexWord?
  cases low : hexDigit? b with
  | none =>
    by_cases plus : a = '+'
    · simp [plus, low]
    · cases high : hexDigit? a <;> simp [plus, low, high]
  | some l =>
    have short := hexDigit?_lt low
    have size : UInt16.size = 65536 := rfl
    by_cases plus : a = '+'
    · simp [plus, low, size]
      omega
    · cases high : hexDigit? a with
      | none => simp [plus, low, high]
      | some h =>
        have short' := hexDigit?_lt high
        simp [plus, low, high, size]
        omega

theorem not_digit {c : Char} (high : 0x80 ≤ c.toNat) :
    hexDigit? c = none ∧ ObjectId.digit? c = none ∧ c ≠ '+' := by
  have codes : '9'.toNat = 57 ∧ 'F'.toNat = 70 ∧ 'f'.toNat = 102 ∧ 'Z'.toNat = 90 ∧
      'z'.toNat = 122 := by decide
  unfold hexDigit? ObjectId.digit?
  simp only [Bool.and_eq_true, decide_eq_true_eq, char_le_iff]
  refine ⟨?_, ?_, ?_⟩
  · rw [if_neg (by omega), if_neg (by omega), if_neg (by omega)]
  · rw [if_neg (by omega), if_neg (by omega), if_neg (by omega)]
  · rintro rfl
    exact absurd high (by decide)

theorem cellText_ascii {a b : UInt8} (ha : a < 0x80) (hb : b < 0x80) :
    cellText a b = [Char.ofNat a.toNat, Char.ofNat b.toNat] := by
  simp [cellText, Utf8.decode, ha, hb]

theorem ofNat_toNat_of_lt {n : Nat} (small : n < 0xD800) : (Char.ofNat n).toNat = n := by
  rw [Char.toNat_ofNat, if_pos (Or.inl small)]

theorem join2_high {a : UInt8} (lead : 0xC2 ≤ a ∧ a ≤ 0xDF) (b : UInt8) :
    0x80 ≤ (Utf8.join2 a b).toNat := by
  have bounds : 0xC2 ≤ a.toNat ∧ a.toNat ≤ 0xDF := by
    simpa [UInt8.le_iff_toNat_le] using lead
  rw [Utf8.join2_eq, ofNat_toNat_of_lt (by omega)]
  omega

theorem cellText_high {a b : UInt8} (high : ¬(a < 0x80 ∧ b < 0x80)) :
    cellText a b = [] ∨ ∃ c : Char, 0x80 ≤ c.toNat ∧ cellText a b = [c] := by
  have alone (b : UInt8) (high : ¬b < 0x80) : Utf8.decode [b] = [none] := by
    unfold Utf8.decode
    rw [if_neg high]
    split_ifs <;> rfl
  unfold cellText
  by_cases ha : a < 0x80
  · have broken : Utf8.decode [a, b] = [some (Char.ofNat a.toNat), none] := by
      rw [Utf8.decode, if_pos ha, alone b (by simpa [ha] using high)]
    rw [broken]
    exact Or.inl rfl
  · unfold Utf8.decode
    rw [if_neg ha]
    simp only [Bool.and_eq_true, decide_eq_true_eq]
    split_ifs with lead tail
    · exact Or.inr ⟨Utf8.join2 a b, join2_high lead b, rfl⟩
    all_goals exact Or.inl rfl

theorem not_digit_byte {b : UInt8} (high : ¬b < 0x80) :
    hexDigit? (Char.ofNat b.toNat) = none ∧ ObjectId.digit? (Char.ofNat b.toNat) = none ∧
      Char.ofNat b.toNat ≠ '+' := by
  have byte := b.toNat_lt
  have above : 0x80 ≤ b.toNat := by simpa [UInt8.lt_iff_toNat_lt] using high
  exact not_digit (by rwa [ofNat_toNat_of_lt (by omega)])

theorem cellValue?_eq (channel : UInt16) (a b : UInt8) :
    cellValue? (Content.ofChannel channel) (a, b) = readCell? channel (cellText a b) := by
  have literal := (Content.ofChannel_isOf channel).code.2.1
  unfold cellValue? readCell?
  simp only [literal]
  by_cases ascii : a < 0x80 ∧ b < 0x80
  · rw [cellText_ascii ascii.1 ascii.2, tempoLiteral?_eq]
  · have unread : readHexWord? (cellText a b) = none ∧ ObjectId.ofChars? (cellText a b) = none := by
      rcases cellText_high ascii with empty | ⟨c, high, single⟩
      · rw [empty]
        exact ⟨rfl, rfl⟩
      · obtain ⟨digit, -, sign⟩ := not_digit high
        rw [single]
        simp [readHexWord?, ObjectId.ofChars?, digit, sign]
    rw [unread.1, unread.2]
    rcases not_and_or.mp ascii with high | high
    · obtain ⟨digit, digit', sign⟩ := not_digit_byte high
      cases low : hexDigit? (Char.ofNat b.toNat) <;>
        simp [tempoLiteral?, ObjectId.ofChars?, digit, digit', sign, low]
    · obtain ⟨digit, digit', -⟩ := not_digit_byte high
      simp [tempoLiteral?, ObjectId.ofChars?, digit, digit']

theorem pairs_getElem? (bytes : List UInt8) (place : Nat) :
    (pairs bytes)[place]? = do
      let a ← bytes[2 * place]?
      let b ← bytes[2 * place + 1]?
      return (a, b) := by
  fun_induction pairs bytes generalizing place with
  | case1 a b rest ih =>
    cases place with
    | zero => rfl
    | succ place => exact ih place
  | case2 bytes single =>
    rcases bytes with _ | ⟨a, _ | ⟨b, rest⟩⟩
    · simp
    · simp
    · exact absurd rfl (single a b rest)

namespace Row

def bytes (row : Row) : List UInt8 := Utf8.encode row.data.toList

def valueAt? (row : Row) (place : Nat) : Option UInt16 := do
  let a ← row.bytes[2 * place]?
  let b ← row.bytes[2 * place + 1]?
  (readCell? row.channel (cellText a b)).filter (· ≠ 0)

theorem valueAt?_eq (row : Row) (place : Nat) :
    row.valueAt? place = row.rawCells[place]?.bind fun raw =>
      (cellValue? row.content raw).filter (· ≠ 0) := by
  unfold valueAt? rawCells content
  rw [pairs_getElem?]
  change (row.bytes[2 * place]?.bind fun a => row.bytes[2 * place + 1]?.bind fun b => _) =
    (row.bytes[2 * place]?.bind fun a => row.bytes[2 * place + 1]?.bind fun b => _).bind _
  cases row.bytes[2 * place]? with
  | none => rfl
  | some a =>
    cases row.bytes[2 * place + 1]? with
    | none => rfl
    | some b => exact congrArg (Option.filter _) (cellValue?_eq row.channel a b).symm

theorem valueAt?_inside {row : Row} {place : Nat} {value : UInt16}
    (said : row.valueAt? place = some value) : place < row.bytes.length / 2 := by
  rw [valueAt?_eq] at said
  obtain ⟨raw, given, -⟩ := Option.bind_eq_some_iff.mp said
  have below := (List.getElem?_eq_some_iff.mp given).1
  rwa [rawCells, pairs_length] at below

end Row

/-- A cell of a chart text that says something. -/
structure Mark where
  measure : Nat
  row : Row
  place : Nat
  value : UInt16

namespace Mark

def position (mark : Mark) : Float :=
  Float.ofNat mark.place / Float.ofNat (mark.row.bytes.length / 2)

def tie (mark : Mark) : Nat :=
  if mark.row.channel ∈ [0x03, 0x08] then 0 else if mark.row.channel = 0x09 then 2 else 1

def seat (mark : Mark) : List Nat := [mark.row.channel.toNat, mark.row.line, mark.place]

/-- What decides, from first to last, which of two cells comes first. -/
def rank (mark : Mark) : List Nat :=
  [mark.measure, (Binary64.totalKey mark.position).toNat, mark.tie] ++ mark.seat

def cell (mark : Mark) : Cell :=
  ⟨mark.row.content, mark.row.channel, mark.value, mark.position⟩

end Mark

def Source.Holds (source : Source) (mark : Mark) : Prop :=
  .row mark.measure mark.row ∈ source.statements ∧ mark.row.channel ∈ cellChannels ∧
    mark.row.valueAt? mark.place = some mark.value

def Row.marks (measure : Nat) (row : Row) : List Mark :=
  if row.content.hasCells then
    row.rawCells.zipIdx.filterMap fun (raw, place) =>
      ((cellValue? row.content raw).filter (· ≠ 0)).map (⟨measure, row, place, ·⟩)
  else []

namespace Row

variable {measure : Nat} {row : Row}

theorem content_hasCells : row.content.hasCells = true ↔ row.channel ∈ cellChannels :=
  (Content.ofChannel_isOf row.channel).hasCells

theorem mem_marks {mark : Mark} : mark ∈ row.marks measure ↔
    mark.measure = measure ∧ mark.row = row ∧ row.channel ∈ cellChannels ∧
      row.valueAt? mark.place = some mark.value := by
  unfold marks
  rw [← content_hasCells, valueAt?_eq]
  split_ifs with cells
  · simp only [List.mem_filterMap, Option.map_eq_some_iff, cells]
    constructor
    · rintro ⟨⟨raw, place⟩, given, value, read, rfl⟩
      rw [List.mk_mem_zipIdx_iff_getElem?] at given
      exact ⟨rfl, rfl, trivial, Option.bind_eq_some_iff.mpr ⟨raw, given, read⟩⟩
    · obtain ⟨m, r, place, value⟩ := mark
      rintro ⟨rfl, rfl, -, read⟩
      obtain ⟨raw, given, read⟩ := Option.bind_eq_some_iff.mp read
      exact ⟨(raw, place), List.mk_mem_zipIdx_iff_getElem?.mpr given, value, read, rfl⟩
  · simp [cells]

theorem marks_cells : (row.marks measure).map Mark.cell = row.cells := by
  unfold marks cells
  split_ifs
  · rw [List.map_filterMap]
    refine List.filterMap_congr ?_
    rintro ⟨raw, place⟩ -
    have count : row.bytes.length / 2 = row.rawCells.length := (pairs_length row.bytes).symm
    dsimp only
    unfold cellAt?
    cases cellValue? row.content raw with
    | none => rfl
    | some value =>
      by_cases zero : value = 0
      · simp [zero]
      · simp [zero, Mark.cell, Mark.position, count]
  · rfl

theorem marks_places : (row.marks measure).Pairwise fun a b => a.place < b.place := by
  unfold marks
  split_ifs
  · have places : row.rawCells.zipIdx.Pairwise fun a b => a.2 < b.2 := by
      rw [← List.pairwise_map (f := Prod.snd), List.zipIdx_map_snd]
      exact List.pairwise_lt_range' _
    refine places.filterMap _ ?_
    rintro ⟨raw, place⟩ ⟨raw', place'⟩ before mark read mark' read'
    obtain ⟨value, -, rfl⟩ := Option.map_eq_some_iff.mp read
    obtain ⟨value', -, rfl⟩ := Option.map_eq_some_iff.mp read'
    exact before
  · exact .nil

end Row

/-- Sorting keeps the order of what it does not tell apart. -/
theorem mergeSort_keeps {α : Type} (le : α → α → Bool) {r : α → α → Prop} {items : List α}
    (trans : ∀ a b c, le a b = true → le b c = true → le a c = true)
    (total : ∀ a b, (le a b || le b a) = true) (sorted : items.Pairwise r) :
    (items.mergeSort le).Pairwise fun a b => le a b = true ∧ (le b a = true → r a b) := by
  have ordered := List.pairwise_mergeSort (List.zipIdxLE_trans trans) (List.zipIdxLE_total total)
    items.zipIdx
  have perm := List.mergeSort_perm items.zipIdx (List.zipIdxLE le)
  have distinct : (items.zipIdx.mergeSort (List.zipIdxLE le)).Pairwise fun a b => a.2 ≠ b.2 := by
    rw [← List.pairwise_map (f := Prod.snd) (R := (· ≠ ·))]
    refine (perm.map Prod.snd).nodup_iff.mpr ?_
    rw [List.zipIdx_map_snd]
    exact List.nodup_range'
  -- with its place beside it no element is like another, so ties are told apart by the places
  rw [← List.mergeSort_zipIdx, List.pairwise_map]
  refine (ordered.and distinct).imp_of_mem ?_
  rintro ⟨a, i⟩ ⟨b, j⟩ ha hb ⟨before, different⟩
  unfold List.zipIdxLE at before
  dsimp only at before different
  split_ifs at before with first tied
  · refine ⟨first, fun _ => ?_⟩
    have placed := List.mk_mem_zipIdx_iff_getElem?.mp (perm.subset ha)
    have placed' := List.mk_mem_zipIdx_iff_getElem?.mp (perm.subset hb)
    obtain ⟨hi, rfl⟩ := List.getElem?_eq_some_iff.mp placed
    obtain ⟨hj, rfl⟩ := List.getElem?_eq_some_iff.mp placed'
    have below : i < j := Nat.lt_of_le_of_ne (of_decide_eq_true before) different
    exact List.pairwise_iff_getElem.mp sorted i j hi hj below
  · exact ⟨first, fun back => absurd back tied⟩

def measureMarks (measure : Nat) (rows : List Row) : List Mark :=
  let byChannel := rows.mergeSort fun a b => a.channel ≤ b.channel
  (byChannel.flatMap (Row.marks measure)).mergeSort fun a b => a.cell.precedes b.cell

theorem measureMarks_cells (measure : Nat) (rows : List Row) :
    (measureMarks measure rows).map Mark.cell = measureCells rows := by
  unfold measureMarks measureCells
  dsimp only
  rw [List.map_mergeSort (s := Cell.precedes) fun a _ b _ => rfl, List.map_flatMap]
  simp only [Row.marks_cells]

theorem mem_measureMarks {measure : Nat} {rows : List Row} {mark : Mark} :
    mark ∈ measureMarks measure rows ↔ mark.measure = measure ∧ mark.row ∈ rows ∧
      mark.row.channel ∈ cellChannels ∧ mark.row.valueAt? mark.place = some mark.value := by
  unfold measureMarks
  rw [List.mem_mergeSort, List.mem_flatMap]
  constructor
  · rintro ⟨row, given, inside⟩
    obtain ⟨same, rfl, rest⟩ := Row.mem_marks.mp inside
    exact ⟨same, List.mem_mergeSort.mp given, rest⟩
  · rintro ⟨same, given, rest⟩
    exact ⟨mark.row, List.mem_mergeSort.mpr given, Row.mem_marks.mpr ⟨same, rfl, rest⟩⟩

theorem Mark.tie_eq (mark : Mark) : mark.tie = mark.cell.content.tieClass := by
  obtain ⟨-, literal, name, stop⟩ := (Content.ofChannel_isOf mark.row.channel).code
  unfold tie
  simp only [List.mem_cons, List.not_mem_nil, or_false, literal, name, stop]
  change _ = (Content.ofChannel mark.row.channel).tieClass
  cases Content.ofChannel mark.row.channel <;> rfl

theorem flatMap_seats (measure : Nat) {rows : List Row}
    (sorted : rows.Pairwise fun a b => a.channel ≤ b.channel ∧
      (b.channel ≤ a.channel → a.line < b.line)) :
    (rows.flatMap (Row.marks measure)).Pairwise fun a b => a.seat < b.seat := by
  refine List.pairwise_flatMap.mpr ⟨?_, sorted.imp ?_⟩
  · intro row given
    refine Row.marks_places.imp_of_mem ?_
    intro a b ha hb before
    obtain ⟨-, rfl, -⟩ := Row.mem_marks.mp ha
    obtain ⟨-, same, -⟩ := Row.mem_marks.mp hb
    simp [Mark.seat, same, List.cons_lt_cons_iff, before]
  · intro row row' ordered a ha b hb
    obtain ⟨-, rfl, -⟩ := Row.mem_marks.mp ha
    obtain ⟨-, rfl, -⟩ := Row.mem_marks.mp hb
    simp only [UInt16.le_iff_toNat_le] at ordered
    simp only [Mark.seat, List.cons_lt_cons_iff]
    omega

theorem measureMarks_ranks (measure : Nat) {rows : List Row}
    (lines : rows.Pairwise fun a b => a.line < b.line) :
    (measureMarks measure rows).Pairwise fun a b => a.rank < b.rank := by
  have byChannel := mergeSort_keeps (fun a b : Row => decide (a.channel ≤ b.channel))
    (by simpa using fun a b c => UInt16.le_trans) (by simpa using fun a b => UInt16.le_total _ _)
    lines
  simp only [decide_eq_true_eq] at byChannel
  have sorted := mergeSort_keeps (fun a b : Mark => a.cell.precedes b.cell)
    (fun a b c => Cell.precedes_trans) (fun a b => Cell.precedes_total a.cell b.cell)
    (flatMap_seats measure byChannel)
  refine List.Pairwise.imp_of_mem ?_ sorted
  intro a b ha hb ordered
  have same : a.measure = b.measure := by
    rw [(mem_measureMarks.mp ha).1, (mem_measureMarks.mp hb).1]
  obtain ⟨before, tied⟩ := ordered
  simp only [Cell.precedes_iff, ← Mark.tie_eq, UInt64.lt_iff_toNat_lt, ← UInt64.toNat_inj]
    at before tied
  simp only [Mark.rank, List.cons_append, List.nil_append, List.cons_lt_cons_iff]
  refine Or.inr ⟨same, ?_⟩
  rcases before with earlier | ⟨together, first⟩
  · exact Or.inl earlier
  · refine Or.inr ⟨together, ?_⟩
    rcases Nat.lt_or_eq_of_le first with lower | equal
    · exact Or.inl lower
    · exact Or.inr ⟨equal, tied (Or.inr ⟨together.symm, equal.ge⟩)⟩

namespace Source

def marks (source : Source) : List Mark :=
  source.measures.flatMap fun measure => measureMarks measure (source.rows measure)

theorem mem_rows {source : Source} {measure : Nat} {row : Row} :
    row ∈ source.rows measure ↔ .row measure row ∈ source.statements := by
  unfold rows
  simp [List.mem_filterMap, Statement.row?_eq_some]

theorem mem_measures {source : Source} {measure : Nat} {row : Row}
    (given : .row measure row ∈ source.statements) : measure ∈ source.measures := by
  have inside : measure ∈ source.statements.filterMap Statement.measure? :=
    List.mem_filterMap.mpr ⟨_, given, rfl⟩
  unfold measures lastMeasure?
  cases last : (source.statements.filterMap Statement.measure?).max? with
  | none =>
    rw [List.max?_eq_none_iff.mp last] at inside
    cases inside
  | some m =>
    have below := (List.max?_eq_some_iff.mp last).2 measure inside
    exact List.mem_range.mpr (Nat.lt_succ_of_le below)

theorem mem_marks {source : Source} {mark : Mark} : mark ∈ source.marks ↔ source.Holds mark := by
  unfold marks Holds
  simp only [List.mem_flatMap, mem_measureMarks, mem_rows]
  constructor
  · rintro ⟨measure, -, rfl, rest⟩
    exact rest
  · intro held
    exact ⟨mark.measure, mem_measures held.1, rfl, held⟩

theorem marks_ranks {source : Source}
    (lines : ∀ measure, (source.rows measure).Pairwise fun a b => a.line < b.line) :
    source.marks.Pairwise fun a b => a.rank < b.rank := by
  have ascending : source.measures.Pairwise (· < ·) := by
    unfold measures
    split
    · exact List.pairwise_lt_range
    · exact .nil
  refine List.pairwise_flatMap.mpr ⟨fun measure _ => measureMarks_ranks measure (lines measure), ?_⟩
  refine ascending.imp ?_
  intro measure measure' before a ha b hb
  rw [Mark.rank, Mark.rank, (mem_measureMarks.mp ha).1, (mem_measureMarks.mp hb).1]
  exact List.cons_lt_cons_iff.mpr (Or.inl before)

end Source
end NoteChart
