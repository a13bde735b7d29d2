import NoteChart.Proofs.Source.Reading
import Mathlib.Data.List.Basic

/-!
Reading two texts as one. If the first is made of whole lines, the lines of the two come one after
the other, and each is read by itself, with its number. So the first fault is that of the first text
or else that of the second; and without a fault the second goes on to say what it says alone, with
its lines counted from where the first has ended.
-/
namespace NoteChart

namespace Text

/-- A text without a line that goes on: it is empty or ends with a newline. -/
def IsWhole (text : List Char) : Prop := text = [] ∨ text.getLast? = some '\n'

theorem IsWhole.tail {c : Char} {rest : List Char} (whole : IsWhole (c :: rest)) :
    rest = [] ∧ c = '\n' ∨ IsWhole rest := by
  rcases whole with none | last
  · cases none
  · cases rest with
    | nil => exact Or.inl ⟨rfl, by simpa using last⟩
    | cons d rest => exact Or.inr (Or.inr (by simpa using last))

theorem lines_eq_nil {text : List Char} (none : lines text = []) : text = [] := by
  cases text with
  | nil => rfl
  | cons c rest =>
    unfold lines at none
    split_ifs at none
    split at none <;> cases none

theorem lines_append {front : List Char} (whole : IsWhole front) (back : List Char) :
    lines (front ++ back) = lines front ++ lines back := by
  induction front with
  | nil => rfl
  | cons c rest ih =>
    rw [List.cons_append, lines, lines]
    by_cases newline : c = '\n'
    · have later : IsWhole rest := by
        rcases whole.tail with ⟨none, -⟩ | later
        · exact Or.inl none
        · exact later
      rw [if_pos newline, if_pos newline, ih later]
      rfl
    · rw [if_neg newline, if_neg newline]
      rcases whole.tail with ⟨-, same⟩ | later
      · exact absurd same newline
      · rw [ih later]
        cases split : lines rest with
        | cons line others => rfl
        | nil =>
          rw [lines_eq_nil split] at whole
          rcases whole with none | last
          · cases none
          · exact absurd (Option.some.inj last) newline

end Text

def Row.later (n : Nat) (row : Row) : Row := { row with line := row.line + n }

def SourceError.later (n : Nat) : SourceError → SourceError
  | .noCells line measure channel data => .noCells (line + n) measure channel data

namespace Statement

def later (n : Nat) : Statement → Statement
  | .row m r => .row m (r.later n)
  | statement => statement

theorem later_of_line {statement : Statement} (n : Nat) (unnumbered : statement.line? = none) :
    statement.later n = statement := by
  cases statement with
  | row m r => cases unnumbered
  | _ => rfl

section Later

variable (n line : Nat)

theorem readRow_later (measure : Nat) (text : List Char) :
    readRow (line + n) measure text =
      ((readRow line measure text).mapError (.later n)).map (Option.map (later n)) := by
  unfold readRow
  split
  · split
    · dsimp only
      split_ifs <;> rfl
    · rfl
  · rfl

theorem readHeader_later (text : List Char) :
    (readHeader text).map (later n) = readHeader text := by
  cases said : readHeader text with
  | none => rfl
  | some statement => exact congrArg some (later_of_line n (readHeader_line said))

theorem read_later (text : List Char) :
    read (line + n) text =
      ((read line text).mapError (.later n)).map (Option.map (later n)) := by
  unfold read
  split
  · split_ifs
    · exact readRow_later n line _ _
    · exact congrArg Except.ok (readHeader_later n _).symm
  · exact congrArg Except.ok (readHeader_later n _).symm
  · rfl

theorem readAll_later (texts : List (List Char)) :
    readAll (line + n) texts =
      ((readAll line texts).mapError (.later n)).map (List.map (later n)) := by
  induction texts generalizing line with
  | nil => rfl
  | cons text rest ih =>
    unfold readAll
    rw [read_later, Nat.add_right_comm, ih]
    cases read line text with
    | error e => rfl
    | ok said =>
      cases readAll (line + 1) rest with
      | error e => rfl
      | ok others => cases said <;> rfl

end Later

theorem readAll_append (line : Nat) (front back : List (List Char)) :
    readAll line (front ++ back) =
      match readAll line front with
      | .error e => .error e
      | .ok said =>
        match readAll (line + front.length) back with
        | .error e => .error e
        | .ok others => .ok (said ++ others) := by
  induction front generalizing line with
  | nil =>
    change readAll line back = match readAll line back with
      | .error e => .error e
      | .ok others => .ok others
    cases readAll line back <;> rfl
  | cons text rest ih =>
    have count : line + (text :: rest).length = line + 1 + rest.length := by
      rw [List.length_cons]
      omega
    rw [List.cons_append, readAll, readAll, ih, count]
    cases read line text with
    | error e => rfl
    | ok said =>
      cases readAll (line + 1) rest with
      | error e => rfl
      | ok others =>
        cases readAll (line + 1 + rest.length) back with
        | error e => rfl
        | ok after => simp

theorem later_row? (n measure : Nat) (statement : Statement) :
    (statement.later n).row? measure = (statement.row? measure).map (Row.later n) := by
  cases statement with
  | row m r => by_cases same : m = measure <;> simp [later, row?, same]
  | _ => rfl

end Statement

theorem max?_append (xs ys : List Nat) : (xs ++ ys).max? = max xs.max? ys.max? := by
  induction xs with
  | nil => simp
  | cons x xs ih =>
    rw [List.cons_append, List.max?_cons, List.max?_cons, ih]
    cases xs.max? <;> cases ys.max? <;> simp [Nat.max_assoc]

namespace Source

/-- One source goes on from another, after so many lines: what both say of one thing, the later one
decides, and the rows of a measure are those of both. -/
structure Joins (n : Nat) (first second both : Source) : Prop where
  headers : ∀ key, both.header? key = (second.header? key).or (first.header? key)
  tempos : ∀ id, both.tempo? id = (second.tempo? id).or (first.tempo? id)
  stops : ∀ id, both.stop? id = (second.stop? id).or (first.stop? id)
  rows : ∀ measure,
    both.rows measure = first.rows measure ++ (second.rows measure).map (Row.later n)
  last : both.lastMeasure? = max first.lastMeasure? second.lastMeasure?

theorem joins_append (n : Nat) (first second : List Statement) :
    Joins n ⟨first⟩ ⟨second⟩ ⟨first ++ second.map (Statement.later n)⟩ := by
  have alike {α : Type} {read : Statement → Option α}
      (blind : ∀ statement : Statement, read (statement.later n) = read statement) :
      (first ++ second.map (Statement.later n)).filterMap read =
        first.filterMap read ++ second.filterMap read := by
    rw [List.filterMap_append, List.filterMap_map]
    exact congrArg _ (List.filterMap_congr fun statement inside => blind statement)
  have deciding {α : Type} {read : Statement → Option α}
      (blind : ∀ statement : Statement, read (statement.later n) = read statement) :
      ((first ++ second.map (Statement.later n)).filterMap read).getLast? =
        (second.filterMap read).getLast?.or (first.filterMap read).getLast? := by
    rw [alike blind, List.getLast?_append]
  refine ⟨?_, ?_, ?_, ?_, ?_⟩
  · intro key
    refine deciding ?_
    rintro ⟨⟩ <;> rfl
  · intro id
    refine deciding ?_
    rintro ⟨⟩ <;> rfl
  · intro id
    refine deciding ?_
    rintro ⟨⟩ <;> rfl
  · intro measure
    change (first ++ second.map (Statement.later n)).filterMap (Statement.row? measure) =
      first.filterMap _ ++ (second.filterMap _).map (Row.later n)
    rw [List.filterMap_append, List.filterMap_map, List.map_filterMap]
    refine congrArg _ (List.filterMap_congr fun statement inside => ?_)
    exact Statement.later_row? n measure statement
  · have measures : (first ++ second.map (Statement.later n)).filterMap Statement.measure? = _ :=
      alike (by rintro ⟨⟩ <;> rfl)
    unfold lastMeasure?
    rw [measures, max?_append]

/-- Reading goes line by line: a text of whole lines and a text after it are read as one by reading
each of them. A fault in the first is the fault of both; else a fault in the second is, on a line
that is counted from the first line of all; and without one the second goes on from the first. -/
theorem parse_append {front : String} (whole : Text.IsWhole front.toList) (back : String) :
    let n := (Text.lines front.toList).length
    (∀ e, parse front = .error e → parse (front ++ back) = .error e) ∧
    (∀ first e, parse front = .ok first → parse back = .error e →
      parse (front ++ back) = .error (e.later n)) ∧
    ∀ first second, parse front = .ok first → parse back = .ok second →
      ∃ both, parse (front ++ back) = .ok both ∧ Joins n first second both := by
  intro n
  have split : Text.lines (front ++ back).toList =
      Text.lines front.toList ++ Text.lines back.toList := by
    rw [String.toList_append, Text.lines_append whole]
  unfold parse
  rw [split, Statement.readAll_append, Statement.readAll_later n 1]
  cases Statement.readAll 1 (Text.lines front.toList) with
  | error e => exact ⟨fun _ same => same, nofun, nofun⟩
  | ok said =>
    cases Statement.readAll 1 (Text.lines back.toList) with
    | error e =>
      refine ⟨nofun, ?_, nofun⟩
      rintro first _ - ⟨⟩
      rfl
    | ok others =>
      refine ⟨nofun, nofun, ?_⟩
      rintro _ _ ⟨⟩ ⟨⟩
      exact ⟨_, rfl, joins_append n said others⟩

theorem parse_append_of_two_titles :
    Text.IsWhole "#TITLE a\n#00111:01\n".toList ∧
      ∃ first second both,
        parse "#TITLE a\n#00111:01\n" = .ok first ∧ parse "#TITLE b\r\n#00111:02" = .ok second ∧
        parse ("#TITLE a\n#00111:01\n" ++ "#TITLE b\r\n#00111:02") = .ok both ∧
        both.header? "TITLE" = some "b" ∧
        both.rows 1 = [⟨0x11, "01", 2⟩, ⟨0x11, "02", 4⟩] ∧ both.lastMeasure? = some 1 ∧
        parse ("#TITLE a\n#00111:01\n" ++ "#00111:--") = .error (.noCells 3 1 0x11 "--") := by
  have whole : Text.IsWhole "#TITLE a\n#00111:01\n".toList := Or.inr (by decide)
  have first : parse "#TITLE a\n#00111:01\n" =
      .ok ⟨[.header "TITLE" "a", .row 1 ⟨0x11, "01", 2⟩]⟩ := by rfl
  have second : parse "#TITLE b\r\n#00111:02" =
      .ok ⟨[.header "TITLE" "b", .row 1 ⟨0x11, "02", 2⟩]⟩ := by rfl
  have faulty : parse "#00111:--" = .error (.noCells 1 1 0x11 "--") := by rfl
  obtain ⟨both, joined, joins⟩ := (parse_append whole _).2.2 _ _ first second
  have later := (parse_append whole _).2.1 _ _ first faulty
  exact ⟨whole, _, _, both, first, second, joined, joins.headers "TITLE", joins.rows 1, joins.last,
    later⟩

end Source
end NoteChart
