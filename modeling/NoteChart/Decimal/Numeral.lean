/-!
Decimal numerals: an optional sign, digits with an optional point among them, and an optional
exponent. A numeral is kept as the exact number it writes; rounding to a double is the last step.
-/
namespace NoteChart.Decimal

/-- `coefficient * 10 ^ exponent`, negated if `negative`. -/
structure Numeral where
  negative : Bool
  coefficient : Nat
  exponent : Int
deriving DecidableEq, Repr

/-- The double nearest to the number, or an infinity beyond the range of doubles. -/
def Numeral.toFloat (n : Numeral) : Float :=
  let size := Float.ofScientific n.coefficient (n.exponent < 0) n.exponent.natAbs
  if n.negative then -size else size

def isDigit (c : Char) : Bool := '0' ≤ c && c ≤ '9'

def digitValue (c : Char) : Nat := c.toNat - '0'.toNat

def value (digits : List Char) : Nat := digits.foldl (fun n c => n * 10 + digitValue c) 0

def takeDigits (cs : List Char) : List Char × List Char := (cs.takeWhile isDigit, cs.dropWhile isDigit)

def takeSign : List Char → Bool × List Char
  | '-' :: cs => (true, cs)
  | '+' :: cs => (false, cs)
  | cs => (false, cs)

def wholeNat? (cs : List Char) : Option Nat :=
  if cs ≠ [] && cs.all isDigit then some (value cs) else none

def readNat? : List Char → Option Nat
  | '+' :: cs => wholeNat? cs
  | cs => wholeNat? cs

def readInt? (cs : List Char) : Option Int :=
  let (negative, digits) := takeSign cs
  (wholeNat? digits).map fun n => if negative then -(n : Int) else n

def readExponent? : List Char → Option Int
  | [] => some 0
  | c :: cs => if c = 'e' || c = 'E' then readInt? cs else none

def takeFraction : List Char → List Char × List Char
  | '.' :: cs => takeDigits cs
  | cs => ([], cs)

/-- A numeral that is the entire text. It needs a digit before or after its point. -/
def readNumeral? (cs : List Char) : Option Numeral :=
  let (negative, unsigned) := takeSign cs
  let (whole, tail) := takeDigits unsigned
  let (fraction, tail) := takeFraction tail
  if whole = [] && fraction = [] then none
  else (readExponent? tail).map fun e =>
    { negative, coefficient := value (whole ++ fraction), exponent := e - fraction.length }

/-- The double a numeral stands for, unless it is beyond the range of doubles. -/
def readFinite? (cs : List Char) : Option Float :=
  (readNumeral? cs).map Numeral.toFloat |>.filter Float.isFinite

end NoteChart.Decimal
