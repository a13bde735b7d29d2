/-!
A place in a list of timed items, up to which they have been handed out.
-/
namespace NoteChart

structure Cursor where
  index : Nat
deriving DecidableEq, Repr

namespace Cursor

variable {α : Type}

def start : Cursor := ⟨0⟩

/-- Hands out the items from the place on that are due, up to the first that is not. -/
def fire (cursor : Cursor) (time : α → Float) (items : List α) (now : Float) : List α × Cursor :=
  let place := min cursor.index items.length
  let due := (items.drop place).takeWhile fun item => time item ≤ now
  (due, ⟨place + due.length⟩)

def isDone (cursor : Cursor) (items : List α) : Bool := items.length ≤ cursor.index

end Cursor
end NoteChart
