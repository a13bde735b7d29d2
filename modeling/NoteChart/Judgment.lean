/-!
Judging a hit by how far it is from its note. Each tier reaches as far as its window on both sides,
the bound included; beyond the window of BAD a press is no hit.
-/
namespace NoteChart

inductive Judgment where
  | pgreat
  | great
  | good
  | bad
  | poor
deriving DecidableEq, Repr

namespace Judgment

def all : List Judgment := [.pgreat, .great, .good, .bad, .poor]

def points : Judgment → UInt32
  | .pgreat => 2
  | .great => 1
  | .good | .bad | .poor => 0

def breaksCombo : Judgment → Bool
  | .bad | .poor => true
  | _ => false

def label : Judgment → String
  | .pgreat => "PGREAT"
  | .great => "GREAT"
  | .good => "GOOD"
  | .bad => "BAD"
  | .poor => "POOR"

end Judgment

/-- How far each tier reaches, in milliseconds; that of POOR bounds presses that are too early. -/
structure JudgeWindows where
  pgreat : Float
  great : Float
  good : Float
  bad : Float
  poor : Float
deriving DecidableEq, Repr

namespace JudgeWindows

def ofRank (rank : UInt8) : JudgeWindows :=
  match rank with
  | 0 => ⟨8.0, 24.0, 40.0, 100.0, 150.0⟩
  | 1 => ⟨15.0, 32.0, 60.0, 100.0, 150.0⟩
  | 2 => ⟨18.0, 40.0, 100.0, 200.0, 250.0⟩
  | _ => ⟨21.0, 60.0, 120.0, 200.0, 250.0⟩

def toList (w : JudgeWindows) : List Float := [w.pgreat, w.great, w.good, w.bad, w.poor]

def isValid (w : JudgeWindows) : Bool :=
  w.toList.all (fun x => x.isFinite && 0.0 < x) &&
    w.pgreat ≤ w.great && w.great ≤ w.good && w.good ≤ w.bad && w.bad ≤ w.poor

/-- The best tier that reaches as far as `diff`, unless even BAD does not. -/
def classify (w : JudgeWindows) (diff : Float) : Option Judgment :=
  let distance := diff.abs
  if distance ≤ w.pgreat then some .pgreat
  else if distance ≤ w.great then some .great
  else if distance ≤ w.good then some .good
  else if distance ≤ w.bad then some .bad
  else none

end JudgeWindows
end NoteChart
