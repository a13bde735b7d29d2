import NoteChart.Judgment

/-!
The running score of a play: how often each judgment was given, the combo, and how many hits were
early or late. Counters are 32-bit words. A press that was too early for its note is counted apart
and changes nothing else.
-/
namespace NoteChart

structure JudgeCounts where
  pgreat : UInt32
  great : UInt32
  good : UInt32
  bad : UInt32
  poor : UInt32
deriving DecidableEq, Repr

namespace JudgeCounts

def zero : JudgeCounts := ⟨0, 0, 0, 0, 0⟩

def get (c : JudgeCounts) : Judgment → UInt32
  | .pgreat => c.pgreat
  | .great => c.great
  | .good => c.good
  | .bad => c.bad
  | .poor => c.poor

def increment (c : JudgeCounts) : Judgment → JudgeCounts
  | .pgreat => { c with pgreat := c.pgreat + 1 }
  | .great => { c with great := c.great + 1 }
  | .good => { c with good := c.good + 1 }
  | .bad => { c with bad := c.bad + 1 }
  | .poor => { c with poor := c.poor + 1 }

def total (c : JudgeCounts) : UInt32 := c.pgreat + c.great + c.good + c.bad + c.poor

def misses (c : JudgeCounts) : UInt32 := c.bad + c.poor

end JudgeCounts

structure Score where
  counts : JudgeCounts
  fast : UInt32
  slow : UInt32
  combo : UInt32
  maxCombo : UInt32
  comboBreaks : UInt32
  emptyPoors : UInt32
deriving DecidableEq, Repr

namespace Score

def zero : Score := ⟨.zero, 0, 0, 0, 0, 0, 0⟩

def countCombo (s : Score) (judgment : Judgment) : Score :=
  if judgment.breaksCombo then
    { s with combo := 0, comboBreaks := if 0 < s.combo then s.comboBreaks + 1 else s.comboBreaks }
  else
    { s with combo := s.combo + 1, maxCombo := max s.maxCombo (s.combo + 1) }

/-- Counts a hit as early or late, unless it was best or no hit. -/
def countTiming (s : Score) (judgment : Judgment) (diff : Float) : Score :=
  match judgment with
  | .great | .good | .bad =>
    if diff < 0.0 then { s with fast := s.fast + 1 }
    else if 0.0 < diff then { s with slow := s.slow + 1 }
    else s
  | .pgreat | .poor => s

/-- Counts a judgment; `diff` is the time of the press less that of the note. -/
def record (s : Score) (judgment : Judgment) (diff : Float) (empty : Bool) : Score :=
  if empty then { s with emptyPoors := s.emptyPoors + 1 }
  else
    ({ s with counts := s.counts.increment judgment }.countCombo judgment).countTiming judgment diff

def exScore (s : Score) : UInt32 := s.counts.pgreat * 2 + s.counts.great

end Score
end NoteChart
