import NoteChart.Source.Reading
import Mathlib.Tactic.SplitIfs
import Mathlib.Tactic.Cases

/-!
When a text cannot be read. The only fault is a line in the form of a row whose data is something
but no cell; a line of any other form says something or nothing. Lines are read one after the other,
so the fault of a text is that of its first faulty line, whatever the lines around it are.
-/
namespace NoteChart

open Text Decimal

/-- A line in the form of a row, with its measure, its channel and its data: `#`, three digits, two
hexadecimal digits, a colon and the data, with blanks around the line and the data passed over. -/
inductive IsRow (text : List Char) : Nat → UInt16 → List Char → Prop
  | row {a b c high low : Char} {h l : Nat} {rest : List Char}
    (form : trim text = '#' :: a :: b :: c :: high :: low :: ':' :: rest)
    (digits : isDigit a = true ∧ isDigit b = true ∧ isDigit c = true)
    (hexadecimal : hexDigit? high = some h ∧ hexDigit? low = some l) :
    IsRow text (100 * digitValue a + 10 * digitValue b + digitValue c) (.ofNat (16 * h + l))
      (trim rest)

/-- Data that is not empty, and without an ASCII letter or digit. -/
def HasNoCells (data : List Char) : Prop := data ≠ [] ∧ ∀ c ∈ data, c.isAlphanum = false

/-- An error tells the number of a faulty line, and its measure, channel and data. -/
def SourceError.Tells (number : Nat) (text : List Char) : SourceError → Prop
  | .noCells line measure channel data =>
    line = number ∧ IsRow text measure channel data.toList ∧ HasNoCells data.toList

namespace SourceError

variable {e : SourceError} {number : Nat} {text : List Char} {rest : List (List Char)}

end SourceError

namespace Statement

theorem value_three (a b c : Char) :
    value [a, b, c] = 100 * digitValue a + 10 * digitValue b + digitValue c := by
  simp only [value, List.foldl_cons, List.foldl_nil]
  omega

end Statement

namespace Source

end Source
end NoteChart
