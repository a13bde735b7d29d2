import NoteChart.Source
import NoteChart.Decimal.Numeral

/-!
Reading chart text. After blanks at its ends a line that speaks starts with `#`. Three digits
after it make the line a row, `#mmmCC:data`; anything else is a header, `#KEY value`. A row must
hold an ASCII letter or digit, which is the only demand that can fail: every other line that is
not as described says nothing.
-/
namespace NoteChart

namespace Text

/-- Unicode White_Space. -/
def isBlank (c : Char) : Bool :=
  let n := c.toNat
  (0x09 ≤ n && n ≤ 0x0D) || n == 0x20 || n == 0x85 || n == 0xA0 || n == 0x1680 ||
    (0x2000 ≤ n && n ≤ 0x200A) || n == 0x2028 || n == 0x2029 || n == 0x202F || n == 0x205F ||
    n == 0x3000

def trimStart (cs : List Char) : List Char := cs.dropWhile isBlank

def trimEnd (cs : List Char) : List Char := (cs.reverse.dropWhile isBlank).reverse

def trim (cs : List Char) : List Char := trimEnd (trimStart cs)

/-- A newline ends a line, so a text that ends with one has no empty line after it, and the empty
text has no lines. -/
def lines : List Char → List (List Char)
  | [] => []
  | c :: rest =>
    if c = '\n' then [] :: lines rest
    else match lines rest with
      | [] => [[c]]
      | line :: others => (c :: line) :: others

end Text

open Text Decimal

namespace Statement

def readRow (line measure : Nat) : List Char → Except SourceError (Option Statement)
  | high :: low :: ':' :: rest =>
    match hexDigit? high, hexDigit? low with
    | some h, some l =>
      let channel := UInt16.ofNat (h * 16 + l)
      let data := trim rest
      if data = [] then .ok none
      else if data.any Char.isAlphanum then
        .ok (some (.row measure { channel, data := String.ofList data, line }))
      else .error (.noCells line measure channel (String.ofList data))
    | _, _ => .ok none
  | _ => .ok none

def tableId? (stem key : List Char) : Option ObjectId :=
  (stem.isPrefixOf? key).bind ObjectId.ofChars?

/-- What a header with this key, in upper case, says. A tempo or stop that is not a finite number
says nothing. -/
def ofHeader (key value : List Char) : Option Statement :=
  match tableId? ['B', 'P', 'M'] key with
  | some id => (readFinite? value).map (.tempo id)
  | none =>
    match tableId? ['S', 'T', 'O', 'P'] key with
    | some id => (readFinite? value).map (.stop id)
    | none => some (.header (String.ofList key) (String.ofList value))

/-- A key up to the first blank, and a value after it. -/
def readHeader (text : List Char) : Option Statement :=
  let key := text.takeWhile fun c => !isBlank c
  let value := trim (text.dropWhile fun c => !isBlank c)
  if key = [] || value = [] then none else ofHeader (key.map Char.toUpper) value

def read (line : Nat) (text : List Char) : Except SourceError (Option Statement) :=
  match trim text with
  | '#' :: a :: b :: c :: rest =>
    if isDigit a && isDigit b && isDigit c then readRow line (value [a, b, c]) rest
    else .ok (readHeader (a :: b :: c :: rest))
  | '#' :: rest => .ok (readHeader rest)
  | _ => .ok none

def readAll (line : Nat) : List (List Char) → Except SourceError (List Statement)
  | [] => .ok []
  | text :: rest =>
    match read line text with
    | .error e => .error e
    | .ok said =>
      match readAll (line + 1) rest with
      | .error e => .error e
      | .ok others => .ok (said.toList ++ others)

end Statement

def Source.parse (text : String) : Except SourceError Source :=
  match Statement.readAll 1 (lines text.toList) with
  | .error e => .error e
  | .ok statements => .ok ⟨statements⟩

end NoteChart
