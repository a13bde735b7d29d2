import NoteChart.Gauge.Element
import NoteChart.Binary64.Order

/-!
One gauge in play. Its changes are resolved against the chart when it is made. A gauge at 0 is
dead and stays so; a living one is kept between its bounds.
-/
namespace NoteChart

structure Gauge where
  element : GaugeElement
  changes : Changes
  value : Float
deriving DecidableEq, Repr

namespace Gauge

def ofElement (element : GaugeElement) (total : Float) (noteCount : Nat) : Gauge where
  element
  changes :=
    if element.scaled then element.changes.map (scaleGain total noteCount) else element.changes
  value := element.init

def isAlive (g : Gauge) : Bool := 0.0 < g.value

def isDead (g : Gauge) : Bool := g.value ≤ 0.0

def isQualified (g : Gauge) : Bool := g.isAlive && g.element.border ≤ g.value

def setValue (g : Gauge) (value : Float) : Gauge :=
  if g.isAlive then { g with value := Binary64.within g.element.min g.element.max value } else g

/-- The factor on losses at the present value: that of the first guts whose threshold is above. -/
def gutsFactor? (g : Gauge) : Option Float :=
  (g.element.guts.find? fun guts => g.value < guts.threshold).map Guts.multiplier

def change (g : Gauge) (judgment : Judgment) (empty : Bool) : Float :=
  let base := g.changes.get judgment empty
  if base < 0.0 then
    match g.gutsFactor? with
    | some factor => base * factor
    | none => base
  else base

def update (g : Gauge) (judgment : Judgment) (empty : Bool) : Gauge :=
  if g.element.death.kills judgment empty then g.setValue 0.0
  else g.setValue (g.value + g.change judgment empty)

def isBounded (g : Gauge) : Bool := !g.isAlive || g.element.min ≤ g.element.max

def setValue? (g : Gauge) (value : Float) : Option Gauge :=
  if g.isBounded then some (g.setValue value) else none

def update? (g : Gauge) (judgment : Judgment) (empty : Bool) : Option Gauge :=
  if g.isBounded then some (g.update judgment empty) else none

end Gauge
end NoteChart
