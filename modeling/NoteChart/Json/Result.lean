import NoteChart.Json.Gauge
import NoteChart.Play.Result

/-!
The JSON forms of scores and results. The gauges at the end of a play are an object by the names
of their kinds, in which a kind that is not on record is left out.
-/
namespace NoteChart

def JudgeCounts.toJson (c : JudgeCounts) : Json :=
  .record [("pgreat", .nat c.pgreat.toNat), ("great", .nat c.great.toNat),
    ("good", .nat c.good.toNat), ("bad", .nat c.bad.toNat), ("poor", .nat c.poor.toNat)]

def JudgeCounts.ofJson? (j : Json) : Option JudgeCounts := do
  let fields ← j.fields? ["pgreat", "great", "good", "bad", "poor"]
  let pgreat ← fields.required "pgreat" Json.uint32?
  let great ← fields.required "great" Json.uint32?
  let good ← fields.required "good" Json.uint32?
  let bad ← fields.required "bad" Json.uint32?
  let poor ← fields.required "poor" Json.uint32?
  return { pgreat, great, good, bad, poor }

def Score.toJson (s : Score) : Json :=
  .record [("counts", s.counts.toJson), ("fast", .nat s.fast.toNat), ("slow", .nat s.slow.toNat),
    ("combo", .nat s.combo.toNat), ("max_combo", .nat s.maxCombo.toNat),
    ("combo_break", .nat s.comboBreaks.toNat), ("empty_poor", .nat s.emptyPoors.toNat)]

def Score.ofJson? (j : Json) : Option Score := do
  let fields ← j.fields?
    ["counts", "fast", "slow", "combo", "max_combo", "combo_break", "empty_poor"]
  let counts ← fields.required "counts" JudgeCounts.ofJson?
  let fast ← fields.required "fast" Json.uint32?
  let slow ← fields.required "slow" Json.uint32?
  let combo ← fields.required "combo" Json.uint32?
  let maxCombo ← fields.required "max_combo" Json.uint32?
  let comboBreaks ← fields.required "combo_break" Json.uint32?
  let emptyPoors ← fields.required "empty_poor" Json.uint32?
  return { counts, fast, slow, combo, maxCombo, comboBreaks, emptyPoors }

namespace Lamp

def cases : List (String × Lamp) :=
  [("NoPlay", .noPlay), ("Failed", .failed), ("AssistEasy", .assistEasy), ("Easy", .easy),
    ("Normal", .normal), ("Hard", .hard), ("ExHard", .exHard), ("Hazard", .hazard),
    ("FullCombo", .fullCombo), ("Perfect", .perfect), ("Max", .max)]

def name : Lamp → String
  | .noPlay => "NoPlay"
  | .failed => "Failed"
  | .assistEasy => "AssistEasy"
  | .easy => "Easy"
  | .normal => "Normal"
  | .hard => "Hard"
  | .exHard => "ExHard"
  | .hazard => "Hazard"
  | .fullCombo => "FullCombo"
  | .perfect => "Perfect"
  | .max => "Max"

def toJson (lamp : Lamp) : Json := .text lamp.name

def ofJson? (j : Json) : Option Lamp := j.case? cases

end Lamp

namespace Grade

def cases : List (String × Grade) :=
  [("F", .f), ("E", .e), ("D", .d), ("C", .c), ("B", .b), ("A", .a), ("AA", .aa), ("AAA", .aaa)]

def toJson (grade : Grade) : Json := .text grade.label

def ofJson? (j : Json) : Option Grade := j.case? cases

end Grade

namespace PerGauge

def toJson (values : PerGauge (Option Float)) : Json :=
  .record (GaugeKind.all.filterMap fun kind =>
    (values.get kind).map fun value => (kind.name, .ofFloat value))

/-- Of two values for one kind the later one counts. -/
def enter? (values : PerGauge (Option Float)) : List (Literal × Json) →
    Option (PerGauge (Option Float))
  | [] => some values
  | (some name, j) :: rest =>
    match GaugeKind.cases.lookup name, j.float? with
    | some kind, some value => (values.set kind (some value)).enter? rest
    | _, _ => none
  | (none, _) :: _ => none

def ofJson? : Json → Option (PerGauge (Option Float))
  | .object members => (replicate none).enter? members
  | _ => none

end PerGauge

namespace PlayResult

def fieldNames : List String :=
  ["lamp", "grade", "ex_score", "max_ex_score", "counts", "fast", "slow", "max_combo",
    "combo_break", "empty_poor", "active_gauge", "final_gauges", "failed"]

def toFields (r : PlayResult) : List (String × Json) :=
  [("lamp", r.lamp.toJson), ("grade", r.grade.toJson), ("ex_score", .nat r.exScore.toNat),
    ("max_ex_score", .nat r.maxExScore.toNat), ("counts", r.counts.toJson),
    ("fast", .nat r.fast.toNat), ("slow", .nat r.slow.toNat),
    ("max_combo", .nat r.maxCombo.toNat), ("combo_break", .nat r.comboBreaks.toNat),
    ("empty_poor", .nat r.emptyPoors.toNat), ("active_gauge", r.activeGauge.toJson),
    ("final_gauges", r.finalGauges.toJson), ("failed", .bool r.failed)]

def toJson (r : PlayResult) : Json := .record r.toFields

def ofJson? (j : Json) : Option PlayResult := do
  let fields ← j.fields? fieldNames
  let lamp ← fields.required "lamp" Lamp.ofJson?
  let grade ← fields.required "grade" Grade.ofJson?
  let exScore ← fields.required "ex_score" Json.uint32?
  let maxExScore ← fields.required "max_ex_score" Json.uint32?
  let counts ← fields.required "counts" JudgeCounts.ofJson?
  let fast ← fields.required "fast" Json.uint32?
  let slow ← fields.required "slow" Json.uint32?
  let maxCombo ← fields.required "max_combo" Json.uint32?
  let comboBreaks ← fields.required "combo_break" Json.uint32?
  let emptyPoors ← fields.required "empty_poor" Json.uint32?
  let activeGauge ← fields.required "active_gauge" GaugeKind.ofJson?
  let finalGauges ← fields.required "final_gauges" PerGauge.ofJson?
  let failed ← fields.required "failed" Json.bool?
  return {
    lamp, grade, exScore, maxExScore, counts, fast, slow, maxCombo, comboBreaks, emptyPoors
    activeGauge, finalGauges, failed }

end PlayResult
end NoteChart
