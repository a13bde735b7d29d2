import NoteChart.Json.Value
import NoteChart.Decimal.Shortest
import NoteChart.Text.Quoted

/-!
Writing JSON text. A double has its shortest digits, a point unless it has an exponent, and an
exponent if its point would stand more than 16 places to the right or 5 to the left of the first
digit. Text is written as it is but for quotes, backslashes and control characters.
-/
namespace NoteChart.Json

open Decimal

def escaped (c : Char) : List Char :=
  match c with
  | '"' => ['\\', '"']
  | '\\' => ['\\', '\\']
  | '\n' => ['\\', 'n']
  | '\r' => ['\\', 'r']
  | '\t' => ['\\', 't']
  | '\x08' => ['\\', 'b']
  | '\x0c' => ['\\', 'f']
  | c =>
    if c.toNat < 0x20 then
      let digits := Text.hexDigits c.toNat
      '\\' :: 'u' :: (List.replicate (4 - digits.length) '0' ++ digits)
    else [c]

def quote (s : String) : List Char := '"' :: s.toList.flatMap escaped ++ ['"']

def pointed : List Char → List Char
  | [] => []
  | [d] => [d]
  | d :: ds => d :: '.' :: ds

/-- The digits of a positive double, with its point after the first `point` of them. -/
def layOut (d : Digits) : List Char :=
  let ds := digitChars d.digits
  let point : Int := ds.length + d.exponent
  if 0 ≤ d.exponent && point ≤ 16 then positional d ++ ['.', '0']
  else if -5 < point && point ≤ 16 then positional d
  else
    let e := point - 1
    pointed ds ++ 'e' :: (if e < 0 then ['-'] else []) ++ digitChars e.natAbs

def float (x : Float) : List Char :=
  let size := if x == 0 then ['0', '.', '0'] else layOut (shortest .even x)
  if isNegative x then '-' :: size else size

def int (n : Int) : List Char :=
  if n < 0 then '-' :: digitChars n.natAbs else digitChars n.natAbs

def gap (indent? : Option Nat) : List Char :=
  match indent? with
  | some depth => '\n' :: List.replicate (2 * depth) ' '
  | none => []

def deeper (indent? : Option Nat) : Option Nat := indent?.map (· + 1)

def colon (indent? : Option Nat) : List Char :=
  match indent? with
  | some _ => [':', ' ']
  | none => [':']

mutual

def render (indent? : Option Nat) : Json → List Char
  | .null => ['n', 'u', 'l', 'l']
  | .bool true => ['t', 'r', 'u', 'e']
  | .bool false => ['f', 'a', 'l', 's', 'e']
  | .integer n => int n
  | .real x => float x
  | .string s => quote (s.getD "\uFFFD")
  | .array [] => ['[', ']']
  | .array (item :: items) =>
    '[' :: gap (deeper indent?) ++ render (deeper indent?) item ++
      renderItems (deeper indent?) items ++ gap indent? ++ [']']
  | .object [] => ['\x7b', '\x7d']
  | .object (member :: members) =>
    '\x7b' :: gap (deeper indent?) ++ renderMember (deeper indent?) member ++
      renderMembers (deeper indent?) members ++ gap indent? ++ ['\x7d']

def renderItems (indent? : Option Nat) : List Json → List Char
  | [] => []
  | item :: items => ',' :: gap indent? ++ render indent? item ++ renderItems indent? items

def renderMember (indent? : Option Nat) : Literal × Json → List Char
  | (name, value) => quote (name.getD "\uFFFD") ++ colon indent? ++ render indent? value

def renderMembers (indent? : Option Nat) : List (Literal × Json) → List Char
  | [] => []
  | member :: members =>
    ',' :: gap indent? ++ renderMember indent? member ++ renderMembers indent? members

end

def compact (j : Json) : String := String.ofList (render none j)
def pretty (j : Json) : String := String.ofList (render (some 0) j)

end NoteChart.Json
