import NoteChart.Json.Value
import NoteChart.Text.Quoted

/-!
Reading JSON text. The grammar is that of RFC 8259 without extensions: one value, blanks around
it, nothing after it.
-/
namespace NoteChart.Json

open Decimal

def isGap (c : Char) : Bool := c = ' ' || c = '\t' || c = '\n' || c = '\r'

def skipGaps (cs : List Char) : List Char := cs.dropWhile isGap

def takeWhole : List Char → Option (List Char × List Char)
  | '0' :: rest => some (['0'], rest)
  | cs =>
    let (digits, rest) := takeDigits cs
    if digits = [] then none else some (digits, rest)

def takePlaces : List Char → Option (List Char × List Char)
  | '.' :: cs =>
    let (digits, rest) := takeDigits cs
    if digits = [] then none else some (digits, rest)
  | cs => some ([], cs)

def takeExponent : List Char → Option (Option Int × List Char)
  | c :: cs =>
    if c = 'e' || c = 'E' then
      let (negative, cs) := takeSign cs
      let (digits, rest) := takeDigits cs
      if digits = [] then none
      else
        let size : Int := value digits
        some (some (if negative then -size else size), rest)
    else some (none, c :: cs)
  | [] => some (none, [])

/-- A literal without point and exponent is an integer if it fits into 64 bits, signed or
unsigned; minus zero is not one. -/
def ofNumeral (n : Numeral) (isWhole : Bool) : Json :=
  let size : Int := n.coefficient
  if isWhole && !n.negative && size < UInt64.size then .integer size
  else if isWhole && n.negative && 0 < size && Int64.minValue.toInt ≤ -size then .integer (-size)
  else .real n.toFloat

def takeMinus : List Char → Bool × List Char
  | '-' :: cs => (true, cs)
  | cs => (false, cs)

def number (cs : List Char) : Option (Json × List Char) := do
  let (negative, cs) := takeMinus cs
  let (whole, cs) ← takeWhole cs
  let (places, cs) ← takePlaces cs
  let (exponent?, rest) ← takeExponent cs
  let numeral : Numeral :=
    { negative, coefficient := value (whole ++ places)
      exponent := exponent?.getD 0 - places.length }
  return (ofNumeral numeral (places.isEmpty && exponent?.isNone), rest)

inductive Piece where
  | char (c : Char)
  | unit (u : Nat)

def unit? (a b c d : Char) : Option Nat := do
  let a ← Text.hexDigit? a
  let b ← Text.hexDigit? b
  let c ← Text.hexDigit? c
  let d ← Text.hexDigit? d
  return ((a * 16 + b) * 16 + c) * 16 + d

def shortEscape? : Char → Option Char
  | '"' => some '"'
  | '\\' => some '\\'
  | '/' => some '/'
  | 'b' => some '\x08'
  | 'f' => some '\x0c'
  | 'n' => some '\n'
  | 'r' => some '\r'
  | 't' => some '\t'
  | _ => none

def pieces : List Char → Option (List Piece × List Char)
  | [] => none
  | '"' :: rest => some ([], rest)
  | '\\' :: 'u' :: a :: b :: c :: d :: rest =>
    match unit? a b c d with
    | some u => (pieces rest).map fun (ps, rest) => (.unit u :: ps, rest)
    | none => none
  | '\\' :: c :: rest =>
    match shortEscape? c with
    | some e => (pieces rest).map fun (ps, rest) => (.char e :: ps, rest)
    | none => none
  | c :: rest =>
    if c.toNat < 0x20 || c = '\\' then none
    else (pieces rest).map fun (ps, rest) => (.char c :: ps, rest)

/-- The text the pieces make, if every surrogate has its partner. -/
def assemble : List Piece → Option (List Char)
  | [] => some []
  | .char c :: rest => (assemble rest).map (c :: ·)
  | .unit u :: rest =>
    if 0xD800 ≤ u && u ≤ 0xDBFF then
      match rest with
      | .unit v :: others =>
        if 0xDC00 ≤ v && v ≤ 0xDFFF then
          let c := Char.ofNat (0x10000 + (u - 0xD800) * 0x400 + (v - 0xDC00))
          (assemble others).map (c :: ·)
        else none
      | _ => none
    else if 0xDC00 ≤ u && u ≤ 0xDFFF then none
    else (assemble rest).map (Char.ofNat u :: ·)

def literal (cs : List Char) : Option (Literal × List Char) :=
  (pieces cs).map fun (ps, rest) => ((assemble ps).map String.ofList, rest)

mutual

/-- A value at the start of a text, and the rest. Every step takes a character, so a bound of one
more than the length of the text is never reached. -/
def valueAt : Nat → List Char → Option (Json × List Char)
  | 0, _ => none
  | bound + 1, cs =>
    match skipGaps cs with
    | 'n' :: 'u' :: 'l' :: 'l' :: rest => some (.null, rest)
    | 't' :: 'r' :: 'u' :: 'e' :: rest => some (.bool true, rest)
    | 'f' :: 'a' :: 'l' :: 's' :: 'e' :: rest => some (.bool false, rest)
    | '"' :: rest => (literal rest).map fun (s, rest) => (.string s, rest)
    | '[' :: rest =>
      match skipGaps rest with
      | ']' :: rest => some (.array [], rest)
      | rest => (itemsAt bound rest).map fun (items, rest) => (.array items, rest)
    | '\x7b' :: rest =>
      match skipGaps rest with
      | '\x7d' :: rest => some (.object [], rest)
      | rest => (membersAt bound rest).map fun (members, rest) => (.object members, rest)
    | cs => number cs

def itemsAt : Nat → List Char → Option (List Json × List Char)
  | 0, _ => none
  | bound + 1, cs => do
    let (item, rest) ← valueAt bound cs
    match skipGaps rest with
    | ']' :: rest => return ([item], rest)
    | ',' :: rest =>
      let (items, rest) ← itemsAt bound rest
      return (item :: items, rest)
    | _ => none

def membersAt : Nat → List Char → Option (List (Literal × Json) × List Char)
  | 0, _ => none
  | bound + 1, cs =>
    match skipGaps cs with
    | '"' :: rest => do
      let (name, rest) ← literal rest
      match skipGaps rest with
      | ':' :: rest =>
        let (value, rest) ← valueAt bound rest
        match skipGaps rest with
        | '\x7d' :: rest => return ([(name, value)], rest)
        | ',' :: rest =>
          let (members, rest) ← membersAt bound rest
          return ((name, value) :: members, rest)
        | _ => none
      | _ => none
    | _ => none

end

def parseChars? (cs : List Char) : Option Json :=
  match valueAt (cs.length + 1) cs with
  | some (value, rest) => if skipGaps rest = [] then some value else none
  | none => none

def parse? (text : String) : Option Json := parseChars? text.toList

end NoteChart.Json
