import NoteChart.Decimal.Numeral

/-!
JSON values. Objects keep their members in order, repeated names included. A string literal can
name half of a surrogate pair, which no text contains: such a literal is kept as `none`, since a
reader that passes over it need not refuse it. Likewise a number too large for a double is kept as
an infinite `real`.
-/
namespace NoteChart

abbrev Literal := Option String

inductive Json where
  | null
  | bool (b : Bool)
  | integer (n : Int)
  | real (x : Float)
  | string (s : Literal)
  | array (items : List Json)
  | object (members : List (Literal × Json))

namespace Json

def text (s : String) : Json := .string (some s)

def record (members : List (String × Json)) : Json :=
  .object (members.map fun (name, value) => (some name, value))

def nat (n : Nat) : Json := .integer n

/-- The form of a double; one that is not finite has no number and is written as null. -/
def ofFloat (x : Float) : Json := if x.isFinite then .real x else .null

def ofOption {α : Type} (form : α → Json) : Option α → Json
  | some a => form a
  | none => .null

def ofList {α : Type} (form : α → Json) (items : List α) : Json := .array (items.map form)

end Json
end NoteChart
