import NoteChart.Json.Value

/-!
Reading values by the shape that is asked for. A record is an object, in which unknown members are
passed over and a known one must not be repeated, or an array of its fields in order, from which
trailing fields may be missing. A case without data is its name, or an object that maps the name
to null. Whole numbers are not read from numbers with a point, and a double must be finite.
-/
namespace NoteChart.Json

def float? : Json → Option Float
  | .integer n => some (Float.ofInt n)
  | .real x => if x.isFinite then some x else none
  | _ => none

def below? (bound : Nat) : Json → Option Nat
  | .integer n => if 0 ≤ n && n < bound then some n.toNat else none
  | _ => none

def uint8? (j : Json) : Option UInt8 := (below? UInt8.size j).map UInt8.ofNat
def uint16? (j : Json) : Option UInt16 := (below? UInt16.size j).map UInt16.ofNat
def uint32? (j : Json) : Option UInt32 := (below? UInt32.size j).map UInt32.ofNat
def uint64? (j : Json) : Option UInt64 := (below? UInt64.size j).map UInt64.ofNat

def bool? : Json → Option Bool
  | .bool b => some b
  | _ => none

def text? : Json → Option String
  | .string s => s
  | _ => none

def all? {α : Type} (read : Json → Option α) : List Json → Option (List α)
  | [] => some []
  | j :: rest =>
    match read j with
    | some a => (all? read rest).map (a :: ·)
    | none => none

def list? {α : Type} (read : Json → Option α) : Json → Option (List α)
  | .array items => all? read items
  | _ => none

def optional? {α : Type} (read : Json → Option α) : Json → Option (Option α)
  | .null => some none
  | j => (read j).map some

def case? {α : Type} (cases : List (String × α)) : Json → Option α
  | .string (some name) => cases.lookup name
  | .object [(some name, .null)] => cases.lookup name
  | _ => none

abbrev Fields := List (String × Json)

/-- Are all names of the members readable, and is no known one repeated? -/
def keepKnown? (names : List String) : List (Literal × Json) → Option Fields
  | [] => some []
  | (none, _) :: _ => none
  | (some name, value) :: rest =>
    match keepKnown? names rest with
    | none => none
    | some fields =>
      if names.contains name then
        if (fields.lookup name).isSome then none else some ((name, value) :: fields)
      else some fields

def fields? (names : List String) : Json → Option Fields
  | .object members => keepKnown? names members
  | .array items => if items.length ≤ names.length then some (names.zip items) else none
  | _ => none

namespace Fields

def required {α : Type} (fields : Fields) (name : String) (read : Json → Option α) : Option α :=
  match fields.lookup name with
  | some j => read j
  | none => none

def withDefault {α : Type} (fields : Fields) (name : String) (default : α)
    (read : Json → Option α) : Option α :=
  match fields.lookup name with
  | some j => read j
  | none => some default

end Fields
end NoteChart.Json
