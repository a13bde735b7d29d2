import NoteChart.Gauge.Ladder

/-!
Gauge auto shift. After each judgment the active gauge may move on the ladder. It falls when it is
dead, or, for a gauge that does not need survival, below the clear line: to the strictest kind
below it that can be played on, but not below the floor. A loose gauge rises by one step when the
next one has reached the line, but not above the kind of the start.
-/
namespace NoteChart

inductive Shift where
  | stay
  | to (kind : GaugeKind)
  /-- The active gauge is dead, and so is all between it and the floor. -/
  | fail
deriving DecidableEq, Repr

def clearLine : Float := 80.0

namespace GaugeLadder

def mustFall (ladder : GaugeLadder) : Bool :=
  if ladder.active.isSurvival then ladder.activeGauge.isDead
  else ladder.activeGauge.value < clearLine

def isPlayable (ladder : GaugeLadder) (kind : GaugeKind) : Bool :=
  !kind.isSurvival || !(ladder.gauge kind).isDead

def fallTo? (ladder : GaugeLadder) (floor : GaugeKind) : Option GaugeKind :=
  (ladder.active.below.takeWhile fun kind => floor ≤ kind).find? ladder.isPlayable

def riseTo? (ladder : GaugeLadder) (start : GaugeKind) : Option GaugeKind :=
  match ladder.active with
  | .assist => if GaugeKind.easy ≤ start && clearLine ≤ ladder.value .easy then some .easy else none
  | .easy =>
    if GaugeKind.groove ≤ start && clearLine ≤ ladder.value .groove then some .groove else none
  | _ => none

def decideShift (ladder : GaugeLadder) (start floor : GaugeKind) : Shift :=
  if ladder.mustFall then
    match ladder.fallTo? floor with
    | some kind => .to kind
    | none => if ladder.active.isSurvival then .fail else .stay
  else match ladder.riseTo? start with
    | some kind => .to kind
    | none => .stay

end GaugeLadder
end NoteChart
