import NoteChart.Chart
import NoteChart.Json.Chart

/-! The summary of a chart: its head and figures, and how many notes each lane has. -/
namespace NoteChart

structure LaneSummary where
  lane : Lane
  notes : Nat
deriving DecidableEq, Repr

def Chart.laneSummaries (chart : Chart) : List LaneSummary :=
  chart.usedLanes.map fun lane => ⟨lane, (chart.laneNotes lane).length⟩

def LaneSummary.toJson (s : LaneSummary) : Json :=
  .record [("lane", s.lane.toJson), ("notes", .nat s.notes)]

def Chart.summaryToJson (chart : Chart) : Json :=
  .record
    [("title", .text chart.title), ("subtitle", .text chart.subtitle),
      ("artist", .text chart.artist), ("genre", .text chart.genre),
      ("play_level", .nat chart.playLevel.toNat), ("note_count", .nat chart.noteCount),
      ("initial_bpm", .ofFloat chart.initialTempo), ("min_bpm", .ofFloat chart.minTempo),
      ("max_bpm", .ofFloat chart.maxTempo), ("main_bpm", .ofFloat chart.mainTempo),
      ("rank", .nat chart.rank.toNat), ("total", .ofFloat chart.total),
      ("song_duration_ms", .ofFloat chart.duration), ("start_nps", .ofFloat chart.startDensity),
      ("avg_nps", .ofFloat chart.averageDensity), ("max_nps", .ofFloat chart.peakDensity),
      ("max_ex_score", .nat chart.maxExScore.toNat),
      ("lanes", .ofList LaneSummary.toJson chart.laneSummaries), ("md5", .text chart.md5),
      ("sha256", .text chart.sha256)]

end NoteChart
