import NoteChart.Gauge.Basic

/-!
The ladder of gauges: all six kinds run side by side through a play, so that any of them can be
read at any time, and one of them is the active one.
-/
namespace NoteChart

structure GaugeLadder where
  gauges : PerGauge Gauge
  active : GaugeKind
  start : GaugeKind
deriving DecidableEq, Repr

namespace GaugeLadder

def ofElements (elements : PerGauge GaugeElement) (active : GaugeKind) (total : Float)
    (noteCount : Nat) : GaugeLadder where
  gauges := elements.map fun element => Gauge.ofElement element total noteCount
  active
  start := active

def gauge (ladder : GaugeLadder) (kind : GaugeKind) : Gauge := ladder.gauges.get kind

def value (ladder : GaugeLadder) (kind : GaugeKind) : Float := (ladder.gauge kind).value

def activeGauge (ladder : GaugeLadder) : Gauge := ladder.gauge ladder.active

def values (ladder : GaugeLadder) : PerGauge Float := ladder.gauges.map Gauge.value

def update (ladder : GaugeLadder) (judgment : Judgment) (empty : Bool) : GaugeLadder :=
  { ladder with gauges := ladder.gauges.map fun g => g.update judgment empty }

/-- Refused if some living gauge has bounds without a value between them. -/
def update? (ladder : GaugeLadder) (judgment : Judgment) (empty : Bool) : Option GaugeLadder :=
  if ladder.gauges.toList.all Gauge.isBounded then some (ladder.update judgment empty) else none

def activate (ladder : GaugeLadder) (kind : GaugeKind) : GaugeLadder := { ladder with active := kind }

def isChanged (ladder : GaugeLadder) : Bool := ladder.active ≠ ladder.start

end GaugeLadder
end NoteChart
