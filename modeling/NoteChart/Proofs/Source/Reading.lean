import NoteChart.Source.Reading
import NoteChart.Text.Utf8
import Mathlib.Tactic.SplitIfs

/-!
What reading promises. Tempos and stops that get a name are finite numbers, and no row holds more
bytes than the whole text.
-/
namespace NoteChart

open Text Decimal

namespace Text

theorem trim_sublist (cs : List Char) : (trim cs).Sublist cs := by
  have start : (trimStart cs).Sublist cs := List.dropWhile_sublist _
  have finish : (trimEnd (trimStart cs)).Sublist (trimStart cs) := by
    have reversed := (List.dropWhile_sublist (l := (trimStart cs).reverse) isBlank).reverse
    rwa [List.reverse_reverse] at reversed
  exact finish.trans start

theorem lines_sublist (cs : List Char) : ∀ line ∈ lines cs, line.Sublist cs := by
  induction cs with
  | nil =>
    intro line inside
    cases inside
  | cons c rest ih =>
    intro line inside
    unfold lines at inside
    split at inside
    · rcases List.mem_cons.mp inside with rfl | inside
      · exact List.nil_sublist _
      · exact (ih line inside).cons c
    · cases split : lines rest with
      | nil =>
        rw [split] at inside
        rcases List.mem_singleton.mp inside with rfl
        exact (List.nil_sublist rest).cons_cons c
      | cons first others =>
        rw [split] at inside ih
        rcases List.mem_cons.mp inside with rfl | inside
        · exact (ih first List.mem_cons_self).cons_cons c
        · exact (ih line (List.mem_cons_of_mem first inside)).cons c

theorem encode_length_le {cs ds : List Char} (part : cs.Sublist ds) :
    (Utf8.encode cs).length ≤ (Utf8.encode ds).length := by
  induction part with
  | slnil => exact Nat.le_refl _
  | cons d part ih =>
    simp only [Utf8.encode, List.flatMap_cons, List.length_append] at ih ⊢
    omega
  | cons_cons d part ih =>
    simp only [Utf8.encode, List.flatMap_cons, List.length_append] at ih ⊢
    omega

theorem encode_length (text : String) :
    (Utf8.encode text.toList).length = text.utf8ByteSize := by
  rw [← String.size_toByteArray, ← String.utf8Encode_toList, List.utf8Encode,
    List.size_toByteArray, Utf8.encode]

end Text

theorem Decimal.readFinite?_isFinite {cs : List Char} {x : Float} (read : readFinite? cs = some x) :
    x.isFinite = true :=
  (Option.filter_eq_some_iff.mp read).2

namespace Statement

theorem header?_eq_some {statement : Statement} {key value : String} :
    statement.header? key = some value ↔ statement = .header key value := by
  cases statement <;> simp [header?]

theorem tempo?_eq_some {statement : Statement} {id : ObjectId} {bpm : Float} :
    statement.tempo? id = some bpm ↔ statement = .tempo id bpm := by
  cases statement <;> simp [tempo?]

theorem stop?_eq_some {statement : Statement} {id : ObjectId} {ticks : Float} :
    statement.stop? id = some ticks ↔ statement = .stop id ticks := by
  cases statement <;> simp [stop?]

theorem row?_eq_some {statement : Statement} {measure : Nat} {row : Row} :
    statement.row? measure = some row ↔ statement = .row measure row := by
  cases statement <;> simp [row?]

/-- Tempos and stops are finite, and a row has at most so many bytes. -/
def IsSound (bytes : Nat) : Statement → Prop
  | .header _ _ => True
  | .tempo _ bpm => bpm.isFinite = true
  | .stop _ ticks => ticks.isFinite = true
  | .row _ r => (Utf8.encode r.data.toList).length ≤ bytes

theorem IsSound.mono {statement : Statement} {m n : Nat} (sound : statement.IsSound m)
    (more : m ≤ n) : statement.IsSound n := by
  cases statement with
  | header key value => trivial
  | tempo id bpm => exact sound
  | stop id ticks => exact sound
  | row measure r => exact Nat.le_trans sound more

theorem ofHeader_isSound {key value : List Char} {statement : Statement} (bytes : Nat)
    (said : ofHeader key value = some statement) : statement.IsSound bytes := by
  unfold ofHeader at said
  split at said
  · obtain ⟨bpm, read, rfl⟩ := Option.map_eq_some_iff.mp said
    exact readFinite?_isFinite read
  · split at said
    · obtain ⟨ticks, read, rfl⟩ := Option.map_eq_some_iff.mp said
      exact readFinite?_isFinite read
    · cases said
      trivial

theorem readHeader_isSound {text : List Char} {statement : Statement} (bytes : Nat)
    (said : readHeader text = some statement) : statement.IsSound bytes := by
  unfold readHeader at said
  dsimp only at said
  split at said
  · cases said
  · exact ofHeader_isSound bytes said

theorem readRow_eq_some {line measure : Nat} {text : List Char} {statement : Statement}
    (accepted : readRow line measure text = .ok (some statement)) :
    ∃ high low h l rest, text = high :: low :: ':' :: rest ∧
      hexDigit? high = some h ∧ hexDigit? low = some l ∧ (trim rest).any Char.isAlphanum = true ∧
      statement = .row measure ⟨.ofNat (h * 16 + l), String.ofList (trim rest), line⟩ := by
  unfold readRow at accepted
  split at accepted
  · rename_i high low rest
    split at accepted
    · rename_i h l dh dl
      dsimp only at accepted
      split_ifs at accepted with empty cells
      · cases accepted
      · cases accepted
        exact ⟨high, low, h, l, rest, rfl, dh, dl, cells, rfl⟩
    · cases accepted
  · cases accepted

theorem readRow_isSound {line measure : Nat} {text : List Char} {statement : Statement}
    (accepted : readRow line measure text = .ok (some statement)) :
    statement.IsSound (Utf8.encode text).length := by
  obtain ⟨high, low, h, l, rest, rfl, -, -, -, rfl⟩ := readRow_eq_some accepted
  have part : (trim rest).Sublist (high :: low :: ':' :: rest) :=
    (((trim_sublist rest).cons _).cons _).cons _
  simp only [IsSound, String.toList_ofList]
  exact encode_length_le part

theorem read_isSound {line : Nat} {text : List Char} {statement : Statement}
    (accepted : read line text = .ok (some statement)) :
    statement.IsSound (Utf8.encode text).length := by
  unfold read at accepted
  split at accepted
  · rename_i a b c rest trimmed
    split at accepted
    · have part : rest.Sublist text := by
        have tail : rest.Sublist (trim text) := by
          rw [trimmed]
          exact (((List.Sublist.refl rest).cons c |>.cons b).cons a).cons '#'
        exact tail.trans (trim_sublist text)
      exact (readRow_isSound accepted).mono (encode_length_le part)
    · exact readHeader_isSound _ (Except.ok.inj accepted)
  · exact readHeader_isSound _ (Except.ok.inj accepted)
  · cases accepted

theorem readAll_mem {number : Nat} {texts : List (List Char)} {statements : List Statement}
    (accepted : readAll number texts = .ok statements) : ∀ s ∈ statements, ∃ i text,
      texts[i]? = some text ∧ read (number + i) text = .ok (some s) := by
  induction texts generalizing number statements with
  | nil =>
    cases accepted
    simp
  | cons text rest ih =>
    unfold readAll at accepted
    split at accepted
    · cases accepted
    · rename_i said first
      split at accepted
      · cases accepted
      · rename_i others later
        cases accepted
        intro s inside
        rcases List.mem_append.mp inside with here | after
        · rw [Option.mem_toList.mp here] at first
          exact ⟨0, text, rfl, first⟩
        · obtain ⟨i, t, place, reading⟩ := ih later s after
          refine ⟨i + 1, t, place, ?_⟩
          rwa [Nat.add_comm i, ← Nat.add_assoc]

end Statement

namespace Source

theorem parse_eq_ok {text : String} {source : Source} (accepted : parse text = .ok source) :
    Statement.readAll 1 (lines text.toList) = .ok source.statements := by
  unfold parse at accepted
  split at accepted
  · cases accepted
  · cases accepted
    assumption

theorem header?_mem {source : Source} {key value : String}
    (found : source.header? key = some value) : .header key value ∈ source.statements := by
  obtain ⟨statement, said, here⟩ := List.mem_filterMap.mp (List.mem_of_getLast? found)
  rwa [Statement.header?_eq_some.mp here] at said

theorem tempo?_mem {source : Source} {id : ObjectId} {bpm : Float}
    (found : source.tempo? id = some bpm) : .tempo id bpm ∈ source.statements := by
  obtain ⟨statement, said, here⟩ := List.mem_filterMap.mp (List.mem_of_getLast? found)
  rwa [Statement.tempo?_eq_some.mp here] at said

theorem stop?_mem {source : Source} {id : ObjectId} {ticks : Float}
    (found : source.stop? id = some ticks) : .stop id ticks ∈ source.statements := by
  obtain ⟨statement, said, here⟩ := List.mem_filterMap.mp (List.mem_of_getLast? found)
  rwa [Statement.stop?_eq_some.mp here] at said

theorem parse_isSound {text : String} {source : Source} (accepted : parse text = .ok source) :
    ∀ s ∈ source.statements, s.IsSound text.utf8ByteSize := by
  intro s said
  obtain ⟨i, line, place, reading⟩ := Statement.readAll_mem (parse_eq_ok accepted) s said
  have part := lines_sublist _ line (List.mem_of_getElem? place)
  have short := encode_length_le part
  rw [encode_length] at short
  exact (Statement.read_isSound reading).mono short

end Source

namespace Statement

def line? : Statement → Option Nat
  | .row _ r => some r.line
  | _ => none

theorem ofHeader_line {key value : List Char} {statement : Statement}
    (said : ofHeader key value = some statement) : statement.line? = none := by
  unfold ofHeader at said
  split at said
  · obtain ⟨bpm, -, rfl⟩ := Option.map_eq_some_iff.mp said
    rfl
  · split at said
    · obtain ⟨ticks, -, rfl⟩ := Option.map_eq_some_iff.mp said
      rfl
    · cases said
      rfl

theorem readHeader_line {text : List Char} {statement : Statement}
    (said : readHeader text = some statement) : statement.line? = none := by
  unfold readHeader at said
  dsimp only at said
  split at said
  · cases said
  · exact ofHeader_line said

theorem readRow_line {line measure : Nat} {text : List Char} {statement : Statement}
    (accepted : readRow line measure text = .ok (some statement)) : statement.line? = some line := by
  obtain ⟨high, low, h, l, rest, -, -, -, -, rfl⟩ := readRow_eq_some accepted
  rfl

theorem read_line {line l : Nat} {text : List Char} {statement : Statement}
    (accepted : read line text = .ok (some statement)) (row : statement.line? = some l) :
    l = line := by
  have header {text : List Char} (said : readHeader text = some statement) : l = line := by
    rw [readHeader_line said] at row
    cases row
  unfold read at accepted
  split at accepted
  · split at accepted
    · rw [readRow_line accepted] at row
      exact (Option.some.inj row).symm
    · exact header (Except.ok.inj accepted)
  · exact header (Except.ok.inj accepted)
  · cases accepted

theorem readAll_lines {line : Nat} {texts : List (List Char)} {statements : List Statement}
    (accepted : readAll line texts = .ok statements) :
    (statements.filterMap line?).Pairwise (· < ·) ∧ ∀ l ∈ statements.filterMap line?, line ≤ l := by
  induction texts generalizing line statements with
  | nil =>
    cases accepted
    exact ⟨.nil, nofun⟩
  | cons text rest ih =>
    unfold readAll at accepted
    split at accepted
    · cases accepted
    · rename_i said first
      split at accepted
      · cases accepted
      · rename_i others later
        cases accepted
        obtain ⟨sorted, above⟩ := ih later
        have here : ∀ l ∈ said.toList.filterMap line?, l = line := by
          intro l inside
          obtain ⟨statement, given, row⟩ := List.mem_filterMap.mp inside
          rw [Option.mem_toList.mp given] at first
          exact read_line first row
        rw [List.filterMap_append]
        refine ⟨List.pairwise_append.mpr ⟨?_, sorted, ?_⟩, ?_⟩
        · cases said with
          | none => exact .nil
          | some statement => cases row : statement.line? <;> simp [row]
        · intro l now l' after
          rw [here l now]
          exact above l' after
        · intro l inside
          rcases List.mem_append.mp inside with now | after
          · exact Nat.le_of_eq (here l now).symm
          · exact Nat.le_of_succ_le (above l after)

end Statement

theorem Source.parse_lines {text : String} {source : Source}
    (accepted : Source.parse text = .ok source) (measure : Nat) :
    (source.rows measure).Pairwise fun a b => a.line < b.line := by
  have lines := (Statement.readAll_lines (parse_eq_ok accepted)).1
  have line {statement : Statement} {row : Row}
      (found : statement.row? measure = some row) : statement.line? = some row.line := by
    rw [Statement.row?_eq_some.mp found]
    rfl
  rw [rows, List.pairwise_filterMap]
  rw [List.pairwise_filterMap] at lines
  refine lines.imp ?_
  intro statement statement' ordered row found row' found'
  exact ordered row.line (line found) row'.line (line found')

end NoteChart
