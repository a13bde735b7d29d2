/-!
The shortest decimal that reads back as a given double. The numbers that round to the double form
an interval; the coarsest power of ten with a multiple in it gives the fewest digits, and of the
multiples next to the double on that grid the nearer one is taken.
-/
namespace NoteChart.Decimal

structure Digits where
  digits : Nat
  exponent : Int
deriving DecidableEq, Repr

inductive Tie where
  | up
  | even

/-- A positive finite double is `significand * 2 ^ power`. -/
structure Binary where
  significand : Nat
  power : Int
deriving DecidableEq, Repr

def leadingBit : Nat := 1 <<< 52

def Binary.ofFloat (x : Float) : Binary :=
  let bits := x.toBits.toNat
  let fraction : Nat := bits % leadingBit
  let biased : Nat := bits / leadingBit % 2048
  if biased = 0 then ⟨fraction, -1074⟩ else ⟨leadingBit + fraction, (biased : Int) - 1075⟩

/-- The numbers that round to a double, in quarters of its last place, and measured on a grid:
`n` quarters are `n * scale / unit` grid steps. -/
structure Interval where
  low : Nat
  mid : Nat
  high : Nat
  closed : Bool
  scale : Nat
  unit : Nat

/-- The interval of a double on the grid of multiples of `10 ^ k`. Below a power of two the next
double is half as far away as above it. -/
def Binary.interval (b : Binary) (k : Int) : Interval :=
  let m := b.significand
  let quarter := b.power - 2
  { low := if m = leadingBit && b.power > -1074 then 4 * m - 1 else 4 * m - 2
    mid := 4 * m
    high := 4 * m + 2
    closed := m % 2 = 0
    scale := Nat.pow 10 (-k).toNat <<< quarter.toNat
    unit := Nat.pow 10 k.toNat <<< (-quarter).toNat }

def Interval.holds (i : Interval) (n : Nat) : Bool :=
  let point := n * i.unit
  if i.closed then i.low * i.scale ≤ point && point ≤ i.high * i.scale
  else i.low * i.scale < point && point < i.high * i.scale

/-- The grid point nearest to the double among its two neighbours, if one of them rounds to it. -/
def Interval.nearest? (tie : Tie) (i : Interval) : Option Nat :=
  let below := i.mid * i.scale / i.unit
  let above := below + 1
  let twice := 2 * (i.mid * i.scale)
  let middle := (below + above) * i.unit
  match i.holds below && below ≠ 0, i.holds above with
  | false, false => none
  | true, false => some below
  | false, true => some above
  | true, true =>
    if twice < middle then some below
    else if middle < twice then some above
    else match tie with
      | .up => some above
      | .even => some (if below % 2 = 0 then below else above)

def searchGrids (tie : Tie) (b : Binary) (k : Int) : Nat → Digits
  | 0 => ⟨0, 0⟩
  | grids + 1 =>
    match (b.interval k).nearest? tie with
    | some n => ⟨n, k⟩
    | none => searchGrids tie b (k - 1) grids

/-- A power of ten above a double: ten bits are a little more than three digits. -/
def Binary.topGrid (b : Binary) : Int :=
  (Nat.log2 b.significand + 1 + b.power) * 1233 / 4096 + 2

/-- The shortest digits of the size of a finite double other than zero. Seventeen digits always
suffice, so some grid among those tried has a hit. -/
def shortest (tie : Tie) (x : Float) : Digits :=
  let b := Binary.ofFloat x
  searchGrids tie b b.topGrid 24

def digitChars (n : Nat) : List Char := Nat.toDigits 10 n

def positional (d : Digits) : List Char :=
  let ds := digitChars d.digits
  match d.exponent with
  | .ofNat e => ds ++ List.replicate e '0'
  | .negSucc e =>
    let places := e + 1
    if places < ds.length then ds.take (ds.length - places) ++ '.' :: ds.drop (ds.length - places)
    else '0' :: '.' :: List.replicate (places - ds.length) '0' ++ ds

def isNegative (x : Float) : Bool := x.toBits ≥ 0x8000000000000000

/-- A double for messages: shortest digits, never an exponent, no point on whole numbers. -/
def plainText (x : Float) : String :=
  if x.isNaN then "NaN"
  else
    let size := if x.isInf then "inf".toList else if x == 0 then ['0'] else positional (shortest .up x)
    String.ofList (if isNegative x then '-' :: size else size)

end NoteChart.Decimal
