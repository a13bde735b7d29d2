import NoteChart.Source.Reading
import NoteChart.Timeline
import NoteChart.Tempo
import NoteChart.Density
import NoteChart.Digest.Md5
import NoteChart.Digest.Sha256

/-!
Building a chart. The events of the timeline are sorted into their streams, and the figures are
computed from them. A header that is missing or cannot be read gives way to its default, so only
reading the text can fail, and counting the notes of its densest second.
-/
namespace NoteChart

namespace Source

def text (source : Source) (key : String) : String := (source.header? key).getD ""

def initialTempo (source : Source) : Float :=
  ((source.header? "BPM").bind fun v => Decimal.readFinite? v.toList).getD defaultTempo

def playLevel (source : Source) : UInt32 :=
  match (source.header? "PLAYLEVEL").bind fun v => Decimal.readNat? v.toList with
  | some n => if n < UInt32.size then .ofNat n else 0
  | none => 0

/-- A 64-bit number, brought into the range of ranks. -/
def rank (source : Source) : UInt8 :=
  match (source.header? "RANK").bind fun v => Decimal.readInt? v.toList with
  | some n =>
    if Int64.minValue.toInt ≤ n && n ≤ Int64.maxValue.toInt then
      if n < 0 then 0 else if lastRank.toNat < n then lastRank else .ofNat n.toNat
    else defaultRank
  | none => defaultRank

def total (source : Source) (noteCount : Nat) : Float :=
  match (source.header? "TOTAL").bind fun v => Decimal.readFinite? v.toList with
  | some t => if 0.0 < t then t else defaultTotal noteCount
  | none => defaultTotal noteCount

def timeline (source : Source) : List Event × Clock :=
  walkMeasures source source.measures ⟨0.0, source.initialTempo⟩

end Source

namespace Chart

def ofSource (source : Source) : Chart :=
  let (events, finish) := source.timeline
  let notes := events.filterMap Event.note?
  let changes := events.filterMap Event.tempo?
  let initial := source.initialTempo
  let least := leastTempo (tempos initial changes)
  let greatest := greatestTempo (tempos initial changes)
  let density := Density.ofTimes (notes.map Note.time) finish.time
  { title := source.text "TITLE"
    subtitle := source.text "SUBTITLE"
    artist := source.text "ARTIST"
    genre := source.text "GENRE"
    playLevel := source.playLevel
    notes
    sounds := events.filterMap Event.sound?
    pictures := events.filterMap Event.picture?
    tempoChanges := changes
    freezes := events.filterMap Event.freeze?
    initialTempo := initial
    minTempo := least
    maxTempo := greatest
    mainTempo := NoteChart.mainTempo initial changes finish.time
    middleTempo := (greatest + least) / 2.0
    rank := source.rank
    total := source.total notes.length
    noteCount := notes.length
    duration := finish.time
    startDensity := density.start
    averageDensity := density.average
    peakDensity := density.peak
    md5 := ""
    sha256 := "" }

/-- What is done about a number below zero: it is refused, or goes on from the greatest word. -/
inductive Arithmetic where
  | checked
  | wrapping
deriving DecidableEq, Repr

inductive BuildError where
  | unreadable (error : SourceError)
  | overflow
deriving DecidableEq, Repr

def BuildError.message : BuildError → String
  | .unreadable error => error.message
  | .overflow => "attempt to subtract with overflow"

def build (arithmetic : Arithmetic) (source : Source) : Except BuildError Chart :=
  let chart := ofSource source
  if arithmetic = .checked && Density.overflows (chart.notes.map Note.time) then .error .overflow
  else .ok chart

/-- The chart of a text, marked with the digests of its UTF-8 bytes. -/
def ofText (arithmetic : Arithmetic) (text : String) : Except BuildError Chart :=
  match Source.parse text with
  | .error e => .error (.unreadable e)
  | .ok source =>
    match build arithmetic source with
    | .error e => .error e
    | .ok chart =>
      let bytes := Text.Utf8.encode text.toList
      .ok { chart with md5 := Digest.Md5.digest bytes, sha256 := Digest.Sha256.digest bytes }

end Chart
end NoteChart
