import NoteChart.Chart
import NoteChart.Json.Lane

/-! The JSON form of charts. -/
namespace NoteChart

def Note.toJson (note : Note) : Json :=
  .record [("time_ms", .ofFloat note.time), ("channel", .nat note.channel.toNat),
    ("lane", note.lane.toJson), ("sample", note.sample.toJson)]

def Note.ofJson? (j : Json) : Option Note := do
  let fields ← j.fields? ["time_ms", "channel", "lane", "sample"]
  let time ← fields.required "time_ms" Json.float?
  let channel ← fields.required "channel" Json.uint16?
  let lane ← fields.required "lane" Lane.ofJson?
  let sample ← fields.required "sample" ObjectId.ofJson?
  return { time, channel, lane, sample }

def Sound.toJson (sound : Sound) : Json :=
  .record [("time_ms", .ofFloat sound.time), ("sample", sound.sample.toJson)]

def Sound.ofJson? (j : Json) : Option Sound := do
  let fields ← j.fields? ["time_ms", "sample"]
  let time ← fields.required "time_ms" Json.float?
  let sample ← fields.required "sample" ObjectId.ofJson?
  return { time, sample }

def Picture.toJson (picture : Picture) : Json :=
  .record [("time_ms", .ofFloat picture.time), ("layer", picture.layer.toJson),
    ("image", picture.image.toJson)]

def Picture.ofJson? (j : Json) : Option Picture := do
  let fields ← j.fields? ["time_ms", "layer", "image"]
  let time ← fields.required "time_ms" Json.float?
  let layer ← fields.required "layer" Layer.ofJson?
  let image ← fields.required "image" ObjectId.ofJson?
  return { time, layer, image }

def TempoChange.toJson (change : TempoChange) : Json :=
  .record [("time_ms", .ofFloat change.time), ("bpm", .ofFloat change.bpm)]

def TempoChange.ofJson? (j : Json) : Option TempoChange := do
  let fields ← j.fields? ["time_ms", "bpm"]
  let time ← fields.required "time_ms" Json.float?
  let bpm ← fields.required "bpm" Json.float?
  return { time, bpm }

def Freeze.toJson (freeze : Freeze) : Json :=
  .record [("time_ms", .ofFloat freeze.time), ("duration_ms", .ofFloat freeze.duration)]

def Freeze.ofJson? (j : Json) : Option Freeze := do
  let fields ← j.fields? ["time_ms", "duration_ms"]
  let time ← fields.required "time_ms" Json.float?
  let duration ← fields.required "duration_ms" Json.float?
  return { time, duration }

namespace Chart

def fieldNames : List String :=
  ["title", "subtitle", "artist", "genre", "play_level", "notes", "bgm_events", "bga_events",
    "bpm_events", "stop_events", "initial_bpm", "min_bpm", "max_bpm", "main_bpm", "avg_fix_bpm",
    "rank", "total", "note_count", "song_duration_ms", "start_nps", "avg_nps", "max_nps", "md5",
    "sha256"]

def toJson (chart : Chart) : Json :=
  .record
    [("title", .text chart.title), ("subtitle", .text chart.subtitle),
      ("artist", .text chart.artist), ("genre", .text chart.genre),
      ("play_level", .nat chart.playLevel.toNat), ("notes", .ofList Note.toJson chart.notes),
      ("bgm_events", .ofList Sound.toJson chart.sounds),
      ("bga_events", .ofList Picture.toJson chart.pictures),
      ("bpm_events", .ofList TempoChange.toJson chart.tempoChanges),
      ("stop_events", .ofList Freeze.toJson chart.freezes),
      ("initial_bpm", .ofFloat chart.initialTempo), ("min_bpm", .ofFloat chart.minTempo),
      ("max_bpm", .ofFloat chart.maxTempo), ("main_bpm", .ofFloat chart.mainTempo),
      ("avg_fix_bpm", .ofFloat chart.middleTempo), ("rank", .nat chart.rank.toNat),
      ("total", .ofFloat chart.total), ("note_count", .nat chart.noteCount),
      ("song_duration_ms", .ofFloat chart.duration), ("start_nps", .ofFloat chart.startDensity),
      ("avg_nps", .ofFloat chart.averageDensity), ("max_nps", .ofFloat chart.peakDensity),
      ("md5", .text chart.md5), ("sha256", .text chart.sha256)]

def ofFields? (fields : Json.Fields) : Option Chart := do
  let title ← fields.required "title" Json.text?
  let subtitle ← fields.required "subtitle" Json.text?
  let artist ← fields.required "artist" Json.text?
  let genre ← fields.required "genre" Json.text?
  let playLevel ← fields.required "play_level" Json.uint32?
  let notes ← fields.required "notes" (Json.list? Note.ofJson?)
  let sounds ← fields.required "bgm_events" (Json.list? Sound.ofJson?)
  let pictures ← fields.required "bga_events" (Json.list? Picture.ofJson?)
  let tempoChanges ← fields.required "bpm_events" (Json.list? TempoChange.ofJson?)
  let freezes ← fields.required "stop_events" (Json.list? Freeze.ofJson?)
  let initialTempo ← fields.required "initial_bpm" Json.float?
  let minTempo ← fields.required "min_bpm" Json.float?
  let maxTempo ← fields.required "max_bpm" Json.float?
  let mainTempo ← fields.required "main_bpm" Json.float?
  let middleTempo ← fields.required "avg_fix_bpm" Json.float?
  let rank ← fields.required "rank" Json.uint8?
  let total ← fields.required "total" Json.float?
  let noteCount ← fields.required "note_count" (Json.below? UInt64.size)
  let duration ← fields.required "song_duration_ms" Json.float?
  let startDensity ← fields.required "start_nps" Json.float?
  let averageDensity ← fields.required "avg_nps" Json.float?
  let peakDensity ← fields.required "max_nps" Json.float?
  let md5 ← fields.required "md5" Json.text?
  let sha256 ← fields.required "sha256" Json.text?
  return {
    title, subtitle, artist, genre, playLevel, notes, sounds, pictures, tempoChanges, freezes
    initialTempo, minTempo, maxTempo, mainTempo, middleTempo, rank, total, noteCount, duration
    startDensity, averageDensity, peakDensity, md5, sha256 }

def ofJson? (j : Json) : Option Chart := (j.fields? fieldNames).bind ofFields?

end Chart
end NoteChart
