import NoteChart.Json.Chart
import NoteChart.Json.Gauge
import NoteChart.Play.Session

/-! The JSON form of what happens in a play. -/
namespace NoteChart

def JudgeEvent.toJson (e : JudgeEvent) : Json :=
  .record [("note_index", .ofOption .nat e.index?), ("lane", e.lane.toJson),
    ("judgment", e.judgment.toJson), ("diff_ms", .ofFloat e.diff), ("combo", .nat e.combo.toNat),
    ("empty", .bool e.empty)]

def PlayEvent.toJson : PlayEvent → Json
  | .judge e => .record [("Judge", e.toJson)]
  | .sound s => .record [("Bgm", s.toJson)]
  | .picture p => .record [("Bga", p.toJson)]
  | .tempo c => .record [("BpmChange", c.toJson)]
  | .shift source target =>
    .record [("GaugeShift", .record [("from", source.toJson), ("to", target.toJson)])]
  | .failed => .text "Failed"

end NoteChart
