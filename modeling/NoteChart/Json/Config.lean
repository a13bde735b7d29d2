import NoteChart.Json.Gauge
import NoteChart.Play.Config

/-!
The JSON form of settings. All of them can be left out. A lane modifier is an object with its type
and, for the random one, its seed, or an array of the two, in which the type is its name alone.
-/
namespace NoteChart

namespace LaneModifier

def toJson : LaneModifier → Json
  | .identity => .record [("type", .text "Identity")]
  | .mirror => .record [("type", .text "Mirror")]
  | .random seed => .record [("type", .text "Random"), ("seed", .nat seed.toNat)]

inductive Tag where
  | identity
  | mirror
  | random
deriving DecidableEq, Repr

def Tag.cases : List (String × Tag) :=
  [("Identity", .identity), ("Mirror", .mirror), ("Random", .random)]

/-- Without a seed only null may stand in its place, or nothing at all. -/
def ofTag? (tag : Tag) (seed? : Option Json) : Option LaneModifier :=
  match tag, seed? with
  | .identity, none | .identity, some .null => some .identity
  | .mirror, none | .mirror, some .null => some .mirror
  | .random, some seed => seed.uint64?.map .random
  | _, _ => none

def ofJson? : Json → Option LaneModifier
  | .object members => do
    let fields ← Json.keepKnown? ["type", "seed"] members
    let tag ← fields.required "type" (Json.case? Tag.cases)
    ofTag? tag (fields.lookup "seed")
  | .array [.string (some name), seed] => do
    let tag ← Tag.cases.lookup name
    ofTag? tag (some seed)
  | _ => none

end LaneModifier

namespace PlayConfig

def fieldNames : List String :=
  ["gauge", "gas", "gas_floor", "autoplay", "input_offset_ms", "judge_windows",
    "hazard_empty_poor_kills", "lane_modifier"]

def toJson (c : PlayConfig) : Json :=
  .record
    [("gauge", c.gauge.toJson), ("gas", .bool c.autoShift), ("gas_floor", c.shiftFloor.toJson),
      ("autoplay", .bool c.autoplay), ("input_offset_ms", .ofFloat c.inputOffset),
      ("judge_windows", .ofOption JudgeWindows.toJson c.windows?),
      ("hazard_empty_poor_kills", .bool c.emptyPoorKills), ("lane_modifier", c.modifier.toJson)]

def ofJson? (j : Json) : Option PlayConfig := do
  let fields ← j.fields? fieldNames
  let gauge ← fields.withDefault "gauge" standard.gauge GaugeKind.ofJson?
  let autoShift ← fields.withDefault "gas" standard.autoShift Json.bool?
  let shiftFloor ← fields.withDefault "gas_floor" standard.shiftFloor GaugeKind.ofJson?
  let autoplay ← fields.withDefault "autoplay" standard.autoplay Json.bool?
  let inputOffset ← fields.withDefault "input_offset_ms" standard.inputOffset Json.float?
  let windows? ← fields.withDefault "judge_windows" standard.windows?
    (Json.optional? JudgeWindows.ofJson?)
  let emptyPoorKills ← fields.withDefault "hazard_empty_poor_kills" standard.emptyPoorKills
    Json.bool?
  let modifier ← fields.withDefault "lane_modifier" standard.modifier LaneModifier.ofJson?
  return {
    gauge, autoShift, shiftFloor, autoplay, inputOffset, windows?, emptyPoorKills, modifier }

end PlayConfig
end NoteChart
