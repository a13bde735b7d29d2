/-!
Letter grades: AAA from eight ninths of the greatest score on, and a grade less for each ninth
that is missing.
-/
namespace NoteChart

inductive Grade where
  | f
  | e
  | d
  | c
  | b
  | a
  | aa
  | aaa
deriving DecidableEq, Repr

namespace Grade

def ladder : List (Nat × Grade) :=
  [(8, .aaa), (7, .aa), (6, .a), (5, .b), (4, .c), (3, .d), (2, .e)]

/-- The best grade whose ninths of `maxScore` the score reaches. -/
def ofScore (score maxScore : UInt32) : Grade :=
  if maxScore = 0 then .f
  else
    match ladder.find? fun (ninths, _) => ninths * maxScore.toNat ≤ score.toNat * 9 with
    | some (_, grade) => grade
    | none => .f

def rank : Grade → Nat
  | .f => 0
  | .e => 1
  | .d => 2
  | .c => 3
  | .b => 4
  | .a => 5
  | .aa => 6
  | .aaa => 7

def label : Grade → String
  | .f => "F"
  | .e => "E"
  | .d => "D"
  | .c => "C"
  | .b => "B"
  | .a => "A"
  | .aa => "AA"
  | .aaa => "AAA"

end Grade
end NoteChart
