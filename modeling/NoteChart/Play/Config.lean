import NoteChart.Chart.Modifier
import NoteChart.Decimal.Shortest
import NoteChart.Gauge.Kind
import NoteChart.Judgment

/-!
The settings of a play, and the three ways in which they can be wrong. Of several faults the one
of the windows is reported first, and that of the offset last.
-/
namespace NoteChart

structure PlayConfig where
  gauge : GaugeKind
  autoShift : Bool
  shiftFloor : GaugeKind
  autoplay : Bool
  /-- Taken from the time of every press, in milliseconds. -/
  inputOffset : Float
  windows? : Option JudgeWindows
  /-- Does a press that is too early kill the strictest gauge? -/
  emptyPoorKills : Bool
  modifier : LaneModifier
deriving DecidableEq, Repr

inductive ConfigError where
  | invalidWindows (windows : JudgeWindows)
  | floorAboveStart (floor start : GaugeKind)
  | offsetNotFinite (offset : Float)
deriving DecidableEq, Repr

def ConfigError.message : ConfigError → String
  | .invalidWindows w =>
    let text := Decimal.plainText
    "judge windows must be positive and non-decreasing, got " ++
      s!"PG {text w.pgreat} GR {text w.great} GD {text w.good} BD {text w.bad} PR {text w.poor}"
  | .floorAboveStart floor start =>
    s!"GAS floor {floor.label} is stricter than the starting gauge {start.label}"
  | .offsetNotFinite offset => s!"input offset must be finite, got {Decimal.plainText offset}"

def JudgeWindows.validate (w : JudgeWindows) : Except ConfigError Unit :=
  if w.isValid then .ok () else .error (.invalidWindows w)

namespace PlayConfig

def standard : PlayConfig where
  gauge := .groove
  autoShift := false
  shiftFloor := .assist
  autoplay := false
  inputOffset := 0.0
  windows? := none
  emptyPoorKills := false
  modifier := .identity

/-- Are these the standard settings? The offset is compared as a number. -/
def isStandard (c : PlayConfig) : Bool :=
  c.inputOffset == standard.inputOffset &&
    { c with inputOffset := standard.inputOffset } = standard

def validateWindows (c : PlayConfig) : Except ConfigError Unit :=
  match c.windows? with
  | some w => w.validate
  | none => .ok ()

def validate (c : PlayConfig) : Except ConfigError Unit :=
  match c.validateWindows with
  | .error e => .error e
  | .ok () =>
    if c.autoShift && c.gauge < c.shiftFloor then .error (.floorAboveStart c.shiftFloor c.gauge)
    else if c.inputOffset.isFinite then .ok ()
    else .error (.offsetNotFinite c.inputOffset)

def windowsFor (c : PlayConfig) (rank : UInt8) : JudgeWindows :=
  c.windows?.getD (JudgeWindows.ofRank rank)

end PlayConfig
end NoteChart
