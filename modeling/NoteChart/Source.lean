import NoteChart.ObjectId
import NoteChart.Text.Quoted

/-!
Chart text as data. A source is the list of the statements its lines make, in their order. Of two
statements about one header, tempo name or stop name the later one counts; the rows of a measure
are kept side by side, each with the number of its line.
-/
namespace NoteChart

structure Row where
  channel : UInt16
  data : String
  line : Nat
deriving DecidableEq, Repr

inductive Statement where
  | header (key value : String)
  | tempo (id : ObjectId) (bpm : Float)
  | stop (id : ObjectId) (ticks : Float)
  | row (measure : Nat) (row : Row)
deriving DecidableEq

structure Source where
  statements : List Statement
deriving DecidableEq

/-- The one fault that makes a text unreadable: a row without a cell in it. -/
inductive SourceError where
  | noCells (line measure : Nat) (channel : UInt16) (data : String)
deriving DecidableEq, Repr

def filledTo (width : Nat) (digits : List Char) : String :=
  String.ofList (List.replicate (width - digits.length) '0' ++ digits)

def SourceError.message : SourceError → String
  | .noCells line measure channel data =>
    let code := (Text.hexDigits channel.toNat).map Char.toUpper
    s!"line {line}: channel data for #{filledTo 3 (Nat.toDigits 10 measure)}{filledTo 2 code} " ++
      s!"has no cells: {Text.quoted data}"

namespace Statement

def header? (key : String) : Statement → Option String
  | .header k value => if k = key then some value else none
  | _ => none

def tempo? (id : ObjectId) : Statement → Option Float
  | .tempo i bpm => if i = id then some bpm else none
  | _ => none

def stop? (id : ObjectId) : Statement → Option Float
  | .stop i ticks => if i = id then some ticks else none
  | _ => none

def row? (measure : Nat) : Statement → Option Row
  | .row m r => if m = measure then some r else none
  | _ => none

def key? : Statement → Option String
  | .header key _ => some key
  | _ => none

def measure? : Statement → Option Nat
  | .row m _ => some m
  | _ => none

end Statement

namespace Source

def header? (source : Source) (key : String) : Option String :=
  (source.statements.filterMap (Statement.header? key)).getLast?

def tempo? (source : Source) (id : ObjectId) : Option Float :=
  (source.statements.filterMap (Statement.tempo? id)).getLast?

def stop? (source : Source) (id : ObjectId) : Option Float :=
  (source.statements.filterMap (Statement.stop? id)).getLast?

def rows (source : Source) (measure : Nat) : List Row :=
  source.statements.filterMap (Statement.row? measure)

def lastMeasure? (source : Source) : Option Nat :=
  (source.statements.filterMap Statement.measure?).max?

/-- The measures a chart runs through: all up to the last one with a row. -/
def measures (source : Source) : List Nat :=
  match source.lastMeasure? with
  | some last => List.range (last + 1)
  | none => []

def headerKeys (source : Source) : List String :=
  (source.statements.filterMap Statement.key?).eraseDups

def named : List ObjectId := (List.range (36 * 36)).map fun n => ⟨.ofNat n⟩

end Source
end NoteChart
