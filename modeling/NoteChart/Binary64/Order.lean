/-!
Choosing between doubles. A NaN is a missing operand: `larger` and `smaller` answer with the
other one. Of two equal operands they answer with the second, so the sign of a zero comes from
there. `within` brings a number between two bounds. `totalKey` lays the doubles out as words whose
order is the total order of IEEE 754: negative numbers from the largest magnitude down, -0 before
0, then the positive numbers.
-/
namespace NoteChart.Binary64

def larger (a b : Float) : Float :=
  if a.isNaN then b else if b.isNaN then a else if b < a then a else b

def smaller (a b : Float) : Float :=
  if a.isNaN then b else if b.isNaN then a else if a < b then a else b

def within (low high x : Float) : Float :=
  let raised := if x < low then low else x
  if high < raised then high else raised

def totalKey (x : Float) : UInt64 :=
  let bits := x.toBits
  if bits < 0x8000000000000000 then bits ||| 0x8000000000000000 else ~~~bits

/-- The total order, in which no two different doubles are equal. -/
def totalLE (a b : Float) : Bool := decide (totalKey a ≤ totalKey b)

def infinity : Float := Float.ofBits 0x7FF0000000000000
def negInfinity : Float := Float.ofBits 0xFFF0000000000000

end NoteChart.Binary64
