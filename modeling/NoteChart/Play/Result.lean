import NoteChart.Lamp
import NoteChart.Grade

/-! What remains of a play: lamp, grade, tallies and the gauges at its end. -/
namespace NoteChart

structure PlayResult where
  lamp : Lamp
  grade : Grade
  exScore : UInt32
  maxExScore : UInt32
  counts : JudgeCounts
  fast : UInt32
  slow : UInt32
  maxCombo : UInt32
  comboBreaks : UInt32
  emptyPoors : UInt32
  activeGauge : GaugeKind
  finalGauges : PerGauge (Option Float)
  failed : Bool
deriving DecidableEq, Repr

namespace PlayResult

def rate (r : PlayResult) : Float :=
  if r.maxExScore = 0 then 0.0 else r.exScore.toFloat / r.maxExScore.toFloat * 100.0

def missCount (r : PlayResult) : UInt32 := r.counts.misses

end PlayResult
end NoteChart
