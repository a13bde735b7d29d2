import NoteChart.Gauge.Kind
import NoteChart.Judgment

/-!
What a kind of gauge does. An element gives its bounds, its start, the border of a clear and the
change for each judgment. Gains can be scaled by the total of the chart over its notes; losses
never are, but a low gauge can soften them, and some judgments can empty it at once.
-/
namespace NoteChart

structure Changes where
  pgreat : Float
  great : Float
  good : Float
  bad : Float
  poor : Float
  empty : Float
deriving DecidableEq, Repr

namespace Changes

/-- An empty press counts as such whatever its judgment. -/
def get (c : Changes) (judgment : Judgment) (empty : Bool) : Float :=
  if empty then c.empty
  else match judgment with
    | .pgreat => c.pgreat
    | .great => c.great
    | .good => c.good
    | .bad => c.bad
    | .poor => c.poor

def map (f : Float → Float) (c : Changes) : Changes :=
  ⟨f c.pgreat, f c.great, f c.good, f c.bad, f c.poor, f c.empty⟩

def toList (c : Changes) : List Float := [c.pgreat, c.great, c.good, c.bad, c.poor, c.empty]

end Changes

/-- A gain is multiplied by the total and divided by the number of notes; without notes there is
no gain. Other changes stay. -/
def scaleGain (total : Float) (noteCount : Nat) (change : Float) : Float :=
  if 0.0 < change then
    if 0 < noteCount then change * total / Float.ofNat noteCount else 0.0
  else change

/-- Below `threshold` losses are multiplied by `multiplier`. -/
structure Guts where
  threshold : Float
  multiplier : Float
deriving DecidableEq, Repr

inductive InstantDeath where
  | never
  | onMiss
  | onMissOrEmptyPoor
deriving DecidableEq, Repr

def InstantDeath.kills (death : InstantDeath) (judgment : Judgment) (empty : Bool) : Bool :=
  match death with
  | .never => false
  | .onMiss => !empty && judgment.breaksCombo
  | .onMissOrEmptyPoor => empty || judgment.breaksCombo

structure GaugeElement where
  min : Float
  max : Float
  init : Float
  border : Float
  changes : Changes
  scaled : Bool
  guts : List Guts
  death : InstantDeath
deriving DecidableEq, Repr

namespace GaugeElement

def light (changes : Changes) : GaugeElement :=
  { min := 2.0, max := 100.0, init := 20.0, border := 80.0, changes, scaled := true, guts := []
    death := .never }

def survival (changes : Changes) (guts : List Guts) (death : InstantDeath) : GaugeElement :=
  { min := 0.0, max := 100.0, init := 100.0, border := 0.0, changes, scaled := false, guts, death }

def standard (emptyKills : Bool) : PerGauge GaugeElement where
  assist := light ⟨1.2, 1.2, 0.6, -1.2, -3.6, -1.2⟩
  easy := light ⟨1.0, 1.0, 0.5, -1.6, -4.8, -1.6⟩
  groove := light ⟨1.0, 1.0, 0.5, -2.0, -6.0, -2.0⟩
  hard := survival ⟨0.16, 0.16, 0.16, -5.0, -9.0, -5.0⟩ [⟨30.0, 0.5⟩] .never
  exHard := survival ⟨0.16, 0.16, 0.16, -10.0, -18.0, -10.0⟩ [⟨30.0, 0.5⟩] .never
  hazard := survival ⟨0.16, 0.16, 0.16, -10.0, -18.0, -10.0⟩ []
    (if emptyKills then .onMissOrEmptyPoor else .onMiss)

end GaugeElement
end NoteChart
