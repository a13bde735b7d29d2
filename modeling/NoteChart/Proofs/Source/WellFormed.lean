import NoteChart.Proofs.Cells
import NoteChart.Proofs.Source.Faults
import NoteChart.Proofs.Source.Reading
import Mathlib.Data.List.DropRight

/-!
What a source that was read from a text keeps to. Keys are in upper case and without blanks, and
cannot be taken for a row or for the name of a tempo or stop; values and data are trimmed; numbers
are within their bounds; and every row has a line of its own.
-/
namespace NoteChart

open Text Decimal

def Text.IsTrimmed (text : List Char) : Prop :=
  (∀ c ∈ text.head?, isBlank c = false) ∧ ∀ c ∈ text.getLast?, isBlank c = false

def BeginsAsRow (text : List Char) : Prop :=
  ∃ a b c rest, text = a :: b :: c :: rest ∧
    isDigit a = true ∧ isDigit b = true ∧ isDigit c = true

structure IsHeaderKey (key : List Char) : Prop where
  nonempty : key ≠ []
  noLower : ∀ c ∈ key, c.isLower = false
  noBlank : ∀ c ∈ key, isBlank c = false
  noRow : ¬BeginsAsRow key
  noName : ∀ high low, (ObjectId.digit? high).isSome → (ObjectId.digit? low).isSome →
    key ≠ ['B', 'P', 'M', high, low] ∧ key ≠ ['S', 'T', 'O', 'P', high, low]

/-- A source with as many lines as given. -/
structure Source.IsWellFormed (source : Source) (lines : Nat) : Prop where
  headers : ∀ key value, source.header? key = some value →
    IsHeaderKey key.toList ∧ value ≠ "" ∧ IsTrimmed value.toList
  tempos : ∀ id bpm, source.tempo? id = some bpm → id.number < 1296 ∧ bpm.isFinite = true
  stops : ∀ id ticks, source.stop? id = some ticks → id.number < 1296 ∧ ticks.isFinite = true
  measures : ∀ m ∈ source.statements.filterMap Statement.measure?, m ≤ 999 ∧ source.rows m ≠ []
  lines : ∀ m, (source.rows m).Pairwise (fun a b => a.line < b.line) ∧
    ∀ r ∈ source.rows m, 1 ≤ r.line ∧ r.line ≤ lines
  rows : ∀ m, ∀ r ∈ source.rows m, r.channel < 256 ∧ IsTrimmed r.data.toList ∧
    ∃ c ∈ r.data.toList, c.isAlphanum = true
  apart : ∀ m n, ∀ r ∈ source.rows m, ∀ s ∈ source.rows n, r.line = s.line → m = n ∧ r = s

namespace Text

theorem isTrimmed_trim (text : List Char) : IsTrimmed (trim text) := by
  have front : trim text <+: trimStart text := List.rdropWhile_prefix isBlank _
  constructor
  · intro c first
    have same : (trimStart text).head? = some c := by
      obtain ⟨rest, whole⟩ := front
      rw [← whole, List.head?_append, Option.mem_def.mp first]
      rfl
    have solid := List.head?_dropWhile_not isBlank text
    rw [show (text.dropWhile isBlank).head? = some c from same] at solid
    exact solid
  · intro c last
    have nonempty : trim text ≠ [] := by
      intro none
      rw [none] at last
      cases last
    have solid := List.rdropWhile_last_not isBlank (trimStart text) nonempty
    rw [Option.mem_def, List.getLast?_eq_some_getLast nonempty] at last
    rw [← Option.some.inj last]
    exact Bool.eq_false_iff.mpr solid

structure IsRaised (c raised : Char) : Prop where
  noLower : raised.isLower = false
  digit : isDigit raised = isDigit c
  blank : isBlank raised = isBlank c

theorem isRaised_small : ∀ n : Fin 26, (Char.ofNat (97 + n)).toUpper.isLower = false ∧
    isDigit (Char.ofNat (97 + n)).toUpper = isDigit (Char.ofNat (97 + n)) ∧
    isBlank (Char.ofNat (97 + n)).toUpper = isBlank (Char.ofNat (97 + n)) := by
  decide

/-- Upper case changes the twenty-six small letters only. -/
theorem small_or_same (c : Char) :
    (∃ n : Fin 26, Char.ofNat (97 + n) = c) ∨ c.isLower = false ∧ c.toUpper = c := by
  by_cases small : c.isLower = true
  · have bounds : 97 ≤ c.toNat ∧ c.toNat ≤ 122 := by
      simpa [Char.isLower, UInt32.le_iff_toNat_le, ← Char.toNat_val] using small
    refine Or.inl ⟨⟨c.toNat - 97, by omega⟩, ?_⟩
    rw [Nat.add_sub_cancel' bounds.1, Char.ofNat_toNat]
  · refine Or.inr ⟨Bool.eq_false_iff.mpr small, ?_⟩
    unfold Char.toUpper
    rw [dif_neg (by simpa [Char.isLower] using small)]

theorem isRaised_toUpper (c : Char) : IsRaised c c.toUpper := by
  rcases small_or_same c with ⟨n, rfl⟩ | ⟨noLower, same⟩
  · obtain ⟨noLower, digit, blank⟩ := isRaised_small n
    exact ⟨noLower, digit, blank⟩
  · rw [same]
    exact ⟨noLower, rfl, rfl⟩

end Text

theorem BeginsAsRow.of_raised {text : List Char} (begins : BeginsAsRow (text.map Char.toUpper)) :
    BeginsAsRow text := by
  obtain ⟨a, b, c, rest, same, digits⟩ := begins
  obtain ⟨a, after, rfl, rfl, second⟩ := List.map_eq_cons_iff.mp same
  obtain ⟨b, after, rfl, rfl, third⟩ := List.map_eq_cons_iff.mp second
  obtain ⟨c, after, rfl, rfl, -⟩ := List.map_eq_cons_iff.mp third
  simp only [(isRaised_toUpper _).digit] at digits
  exact ⟨a, b, c, after, rfl, digits⟩

theorem BeginsAsRow.append {text : List Char} (begins : BeginsAsRow text) (more : List Char) :
    BeginsAsRow (text ++ more) := by
  obtain ⟨a, b, c, rest, rfl, digits⟩ := begins
  exact ⟨a, b, c, rest ++ more, rfl, digits⟩

namespace Statement

theorem digit?_lt {c : Char} {n : Nat} (digit : ObjectId.digit? c = some n) : n < 36 := by
  unfold ObjectId.digit? at digit
  simp only [Bool.and_eq_true, decide_eq_true_eq, char_le_iff] at digit
  have codes : '9'.toNat = '0'.toNat + 9 ∧ 'Z'.toNat = 'A'.toNat + 25 ∧
      'z'.toNat = 'a'.toNat + 25 := by decide
  split_ifs at digit <;> cases digit <;> omega

theorem tableId?_append (stem : List Char) {high low : Char} (named : (ObjectId.digit? high).isSome)
    (named' : (ObjectId.digit? low).isSome) : tableId? stem (stem ++ [high, low]) ≠ none := by
  obtain ⟨h, dh⟩ := Option.isSome_iff_exists.mp named
  obtain ⟨l, dl⟩ := Option.isSome_iff_exists.mp named'
  have cut := List.isPrefixOf?_eq_some_iff_append_eq.mpr (rfl : stem ++ [high, low] = _)
  simp [tableId?, cut, ObjectId.ofChars?, dh, dl]

theorem tableId?_lt {stem key : List Char} {id : ObjectId} (named : tableId? stem key = some id) :
    id.number < 1296 := by
  obtain ⟨name, -, read⟩ := Option.bind_eq_some_iff.mp named
  unfold ObjectId.ofChars? at read
  split at read
  · rename_i high low
    obtain ⟨h, dh, read⟩ := Option.bind_eq_some_iff.mp read
    obtain ⟨l, dl, same⟩ := Option.bind_eq_some_iff.mp read
    cases same
    have bounds := And.intro (digit?_lt dh) (digit?_lt dl)
    have size : UInt16.size = 65536 := rfl
    rw [UInt16.lt_iff_toNat_lt, UInt16.toNat_ofNat_of_lt' (by omega)]
    change _ < 1296
    omega
  · cases read

def IsWellFormed : Statement → Prop
  | .header key value => IsHeaderKey key.toList ∧ value ≠ "" ∧ IsTrimmed value.toList
  | .tempo id bpm => id.number < 1296 ∧ bpm.isFinite = true
  | .stop id ticks => id.number < 1296 ∧ ticks.isFinite = true
  | .row measure r => measure ≤ 999 ∧ r.channel < 256 ∧ IsTrimmed r.data.toList ∧
    ∃ c ∈ r.data.toList, c.isAlphanum = true

theorem ofHeader_isWellFormed {key value : List Char} {statement : Statement} (nonempty : key ≠ [])
    (noLower : ∀ c ∈ key, c.isLower = false) (noBlank : ∀ c ∈ key, isBlank c = false)
    (noRow : ¬BeginsAsRow key) (something : value ≠ []) (trimmed : IsTrimmed value)
    (said : ofHeader key value = some statement) : statement.IsWellFormed := by
  unfold ofHeader at said
  split at said
  · rename_i id named
    obtain ⟨bpm, read, rfl⟩ := Option.map_eq_some_iff.mp said
    exact ⟨tableId?_lt named, readFinite?_isFinite read⟩
  · rename_i noTempo
    split at said
    · rename_i id named
      obtain ⟨ticks, read, rfl⟩ := Option.map_eq_some_iff.mp said
      exact ⟨tableId?_lt named, readFinite?_isFinite read⟩
    · rename_i noStop
      cases said
      simp only [IsWellFormed, String.toList_ofList]
      refine ⟨⟨nonempty, noLower, noBlank, noRow, ?_⟩, by simpa using something, trimmed⟩
      intro high low named named'
      constructor
      · rintro rfl
        exact tableId?_append ['B', 'P', 'M'] named named' noTempo
      · rintro rfl
        exact tableId?_append ['S', 'T', 'O', 'P'] named named' noStop

theorem readHeader_isWellFormed {text : List Char} {statement : Statement}
    (noRow : ¬BeginsAsRow text) (said : readHeader text = some statement) :
    statement.IsWellFormed := by
  unfold readHeader at said
  dsimp only at said
  split_ifs at said with missing
  simp only [Bool.or_eq_true, decide_eq_true_eq, not_or] at missing
  have raised {c : Char} (inside : c ∈ (text.takeWhile fun c => !isBlank c).map Char.toUpper) :
      ∃ d ∈ text.takeWhile (fun c => !isBlank c), IsRaised d c := by
    obtain ⟨d, given, rfl⟩ := List.mem_map.mp inside
    exact ⟨d, given, isRaised_toUpper d⟩
  refine ofHeader_isWellFormed ?_ ?_ ?_ ?_ missing.2 (isTrimmed_trim _) said
  · simpa using missing.1
  · intro c inside
    obtain ⟨d, -, raised⟩ := raised inside
    exact raised.noLower
  · intro c inside
    obtain ⟨d, given, raised⟩ := raised inside
    rw [raised.blank]
    simpa using List.mem_takeWhile_imp given
  · intro key
    have front := BeginsAsRow.of_raised key
    have whole := front.append (text.dropWhile fun c => !isBlank c)
    rw [List.takeWhile_append_dropWhile] at whole
    exact noRow whole

theorem digitValue_le {c : Char} (digit : isDigit c = true) : digitValue c ≤ 9 := by
  simp only [isDigit, Bool.and_eq_true, decide_eq_true_eq, char_le_iff] at digit
  have codes : '9'.toNat = '0'.toNat + 9 := by decide
  unfold digitValue
  omega

theorem read_isWellFormed {line : Nat} {text : List Char} {statement : Statement}
    (accepted : read line text = .ok (some statement)) : statement.IsWellFormed := by
  unfold read at accepted
  split at accepted
  · rename_i a b c rest form
    split at accepted
    · rename_i digits
      rw [Bool.and_eq_true, Bool.and_eq_true, and_assoc] at digits
      obtain ⟨high, low, h, l, data, -, dh, dl, cells, rfl⟩ := readRow_eq_some accepted
      refine ⟨?_, ?_, ?_, ?_⟩
      · have values := And.intro (digitValue_le digits.1)
          (And.intro (digitValue_le digits.2.1) (digitValue_le digits.2.2))
        rw [value_three]
        omega
      · have bounds := And.intro (hexDigit?_lt dh) (hexDigit?_lt dl)
        have size : UInt16.size = 65536 := rfl
        rw [UInt16.lt_iff_toNat_lt, UInt16.toNat_ofNat_of_lt' (by omega)]
        change _ < 256
        omega
      · rw [String.toList_ofList]
        exact isTrimmed_trim data
      · rw [String.toList_ofList]
        exact List.any_eq_true.mp cells
    · rename_i digits
      refine readHeader_isWellFormed ?_ (Except.ok.inj accepted)
      rintro ⟨a', b', c', rest', same, da, db, dc⟩
      cases same
      simp [da, db, dc] at digits
  · rename_i rest short form
    refine readHeader_isWellFormed ?_ (Except.ok.inj accepted)
    rintro ⟨a, b, c, rest', rfl, -⟩
    exact short a b c rest' rfl
  · cases accepted

end Statement

namespace Source

theorem parse_isWellFormed {text : String} {source : Source}
    (accepted : parse text = .ok source) :
    source.IsWellFormed (lines text.toList).length := by
  have reading := parse_eq_ok accepted
  have sound {s : Statement} (said : s ∈ source.statements) : s.IsWellFormed := by
    obtain ⟨i, line, -, here⟩ := Statement.readAll_mem reading s said
    exact Statement.read_isWellFormed here
  have placed {m : Nat} {r : Row} (inside : r ∈ source.rows m) :
      ∃ i line, (lines text.toList)[i]? = some line ∧ r.line = 1 + i ∧
        Statement.read (1 + i) line = .ok (some (.row m r)) := by
    obtain ⟨i, line, place, here⟩ := Statement.readAll_mem reading _ (mem_rows.mp inside)
    exact ⟨i, line, place, Statement.read_line here rfl, here⟩
  refine ⟨?_, ?_, ?_, ?_, ?_, ?_, ?_⟩
  · exact fun key value found => sound (header?_mem found)
  · exact fun id bpm found => sound (tempo?_mem found)
  · exact fun id ticks found => sound (stop?_mem found)
  · intro m inside
    obtain ⟨statement, said, found⟩ := List.mem_filterMap.mp inside
    cases statement with
    | row m r =>
      cases found
      exact ⟨(sound said).1, List.ne_nil_of_mem (mem_rows.mpr said)⟩
    | _ => cases found
  · intro m
    refine ⟨parse_lines accepted m, ?_⟩
    intro r inside
    obtain ⟨i, line, place, number, -⟩ := placed inside
    have short := (List.getElem?_eq_some_iff.mp place).1
    omega
  · exact fun m r inside => (sound (mem_rows.mp inside)).2
  · intro m n r inside s inside' same
    obtain ⟨i, line, place, number, here⟩ := placed inside
    obtain ⟨j, line', place', number', here'⟩ := placed inside'
    obtain rfl : i = j := by omega
    obtain rfl : line = line' := Option.some.inj (place.symm.trans place')
    rw [here] at here'
    cases here'
    exact ⟨rfl, rfl⟩

end Source
end NoteChart
