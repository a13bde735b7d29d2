import NoteChart.Gauge.Kind
import NoteChart.Judgment
import NoteChart.Json.Shape

/-! The JSON forms of judgments, judge windows and kinds of gauge. -/
namespace NoteChart

def Judgment.cases : List (String × Judgment) :=
  [("PGreat", .pgreat), ("Great", .great), ("Good", .good), ("Bad", .bad), ("Poor", .poor)]

def Judgment.name : Judgment → String
  | .pgreat => "PGreat"
  | .great => "Great"
  | .good => "Good"
  | .bad => "Bad"
  | .poor => "Poor"

def Judgment.toJson (judgment : Judgment) : Json := .text judgment.name

def Judgment.ofJson? (j : Json) : Option Judgment := j.case? cases

def JudgeWindows.toJson (w : JudgeWindows) : Json :=
  .record [("pgreat", .ofFloat w.pgreat), ("great", .ofFloat w.great), ("good", .ofFloat w.good),
    ("bad", .ofFloat w.bad), ("poor", .ofFloat w.poor)]

def JudgeWindows.ofJson? (j : Json) : Option JudgeWindows := do
  let fields ← j.fields? ["pgreat", "great", "good", "bad", "poor"]
  let pgreat ← fields.required "pgreat" Json.float?
  let great ← fields.required "great" Json.float?
  let good ← fields.required "good" Json.float?
  let bad ← fields.required "bad" Json.float?
  let poor ← fields.required "poor" Json.float?
  return { pgreat, great, good, bad, poor }

namespace GaugeKind

def cases : List (String × GaugeKind) :=
  [("Assist", .assist), ("Easy", .easy), ("Groove", .groove), ("Hard", .hard),
    ("ExHard", .exHard), ("Hazard", .hazard)]

def name : GaugeKind → String
  | .assist => "Assist"
  | .easy => "Easy"
  | .groove => "Groove"
  | .hard => "Hard"
  | .exHard => "ExHard"
  | .hazard => "Hazard"

def toJson (kind : GaugeKind) : Json := .text kind.name

def ofJson? (j : Json) : Option GaugeKind := j.case? cases

end GaugeKind
end NoteChart
