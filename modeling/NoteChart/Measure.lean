import NoteChart.Channel
import NoteChart.Source
import NoteChart.Decimal.Numeral
import NoteChart.Binary64.Order
import NoteChart.Text.Utf8

/-!
One measure. Its rows are cut into cells of two bytes, and the cells of a row divide the measure
evenly. A cell says nothing if it is 00 or not a number of its kind. The cells of all rows come in
the order of their positions; at one position tempo changes come first and stops last, then the
lower channel, then the earlier line.
-/
namespace NoteChart

structure Cell where
  content : Content
  channel : UInt16
  value : UInt16
  position : Float
deriving DecidableEq, Repr

def pairs : List UInt8 → List (UInt8 × UInt8)
  | a :: b :: rest => (a, b) :: pairs rest
  | _ => []

/-- A tempo in the cell itself: two hexadecimal digits, or a plus sign and one. -/
def tempoLiteral? (a b : Char) : Option UInt16 :=
  match Text.hexDigit? b with
  | none => none
  | some low =>
    if a = '+' then some (.ofNat low) else (Text.hexDigit? a).map fun high => .ofNat (high * 16 + low)

def cellValue? (content : Content) (cell : UInt8 × UInt8) : Option UInt16 :=
  let a := Char.ofNat cell.1.toNat
  let b := Char.ofNat cell.2.toNat
  if content = .tempoValue then tempoLiteral? a b else (ObjectId.ofChars? [a, b]).map ObjectId.number

namespace Row

def content (row : Row) : Content := Content.ofChannel row.channel

def rawCells (row : Row) : List (UInt8 × UInt8) := pairs (Text.Utf8.encode row.data.toList)

/-- The cell at place `i` of `count`, unless it says nothing. -/
def cellAt? (row : Row) (count : Nat) (raw : UInt8 × UInt8) (i : Nat) : Option Cell :=
  match cellValue? row.content raw with
  | some value =>
    if value = 0 then none
    else some
      { content := row.content, channel := row.channel, value
        position := Float.ofNat i / Float.ofNat count }
  | none => none

def cells (row : Row) : List Cell :=
  if row.content.hasCells then
    row.rawCells.zipIdx.filterMap fun (raw, i) => row.cellAt? row.rawCells.length raw i
  else []

end Row

def Cell.precedes (a b : Cell) : Bool :=
  let i := Binary64.totalKey a.position
  let j := Binary64.totalKey b.position
  i < j || (i = j && a.content.tieClass ≤ b.content.tieClass)

def measureCells (rows : List Row) : List Cell :=
  let byChannel := rows.mergeSort fun a b => a.channel ≤ b.channel
  (byChannel.flatMap Row.cells).mergeSort Cell.precedes

/-- The length of a measure in units of four beats: that of the last row that gives one, if it is
a positive number, and 1 otherwise. -/
def measureLength (rows : List Row) : Float :=
  match (rows.filter fun row => row.content = .measureLength).getLast? with
  | some row =>
    match Decimal.readFinite? row.data.toList with
    | some length => if 0.0 < length then length else 1.0
    | none => 1.0
  | none => 1.0

end NoteChart
