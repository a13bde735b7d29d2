/-!
How dense a chart is, in notes per second: in its opening, on average, and in its densest second.
Times are in milliseconds and ascending.
-/
namespace NoteChart

structure Density where
  start : Float
  average : Float
  peak : Float
deriving DecidableEq, Repr

namespace Density

def openingWindow : Float := 10000.0
def peakWindow : Float := 1000.0

/-- The window that begins with each of the times, from the place of its first time to that of the
first time past it. No window ends before the last one, which left the times `ahead`. -/
def windows : List Float → List Float → Nat → Nat → List (Nat × Nat)
  | [], _, _, _ => []
  | t :: rest, ahead, start, stop =>
    let entering := ahead.takeWhile fun u => u < t + peakWindow
    let beyond := ahead.dropWhile fun u => u < t + peakWindow
    (start, stop + entering.length) :: windows rest beyond (start + 1) (stop + entering.length)

def windowsOf (times : List Float) : List (Nat × Nat) := windows times times 0 0

/-- The difference of two places, as a word: below zero it goes on from the greatest word. -/
def width : Nat × Nat → Nat
  | (start, stop) => if stop < start then UInt64.size + stop - start else stop - start

def overflows (times : List Float) : Bool :=
  (windowsOf times).any fun (start, stop) => stop < start

def peakCount (times : List Float) : Nat := ((windowsOf times).map width).max?.getD 0

def ofTimes (times : List Float) (duration : Float) : Density :=
  match times with
  | [] => ⟨0.0, 0.0, 0.0⟩
  | first :: _ =>
    let opening := (times.takeWhile fun t => t < first + openingWindow).length
    { start := Float.ofNat opening / (openingWindow / 1000.0)
      average := if 0.0 < duration then Float.ofNat times.length / (duration / 1000.0) else 0.0
      peak := Float.ofNat (peakCount times) / (peakWindow / 1000.0) }

end Density
end NoteChart
