import NoteChart.Channel
import NoteChart.ObjectId
import NoteChart.Binary64.Order

/-!
A chart in absolute time, in milliseconds from its start: what is to be played, heard and shown,
how the tempo runs, and the figures that the rules of play need.
-/
namespace NoteChart

structure Note where
  time : Float
  channel : UInt16
  lane : Lane
  sample : ObjectId
deriving DecidableEq, Repr

structure Sound where
  time : Float
  sample : ObjectId
deriving DecidableEq, Repr

structure Picture where
  time : Float
  layer : Layer
  image : ObjectId
deriving DecidableEq, Repr

structure TempoChange where
  time : Float
  bpm : Float
deriving DecidableEq, Repr

structure Freeze where
  time : Float
  duration : Float
deriving DecidableEq, Repr

def defaultTempo : Float := 130.0

def defaultRank : UInt8 := 2
def lastRank : UInt8 := 3

/-- The total of a chart that gives none: more for each note, and most for the 401st to 600th. -/
def defaultTotal (noteCount : Nat) : Float :=
  let n := Float.ofNat noteCount
  160.0 + (n + Binary64.within 0.0 200.0 (n - 400.0)) * 0.16

structure Chart where
  title : String
  subtitle : String
  artist : String
  genre : String
  playLevel : UInt32
  notes : List Note
  sounds : List Sound
  pictures : List Picture
  tempoChanges : List TempoChange
  freezes : List Freeze
  initialTempo : Float
  minTempo : Float
  maxTempo : Float
  mainTempo : Float
  middleTempo : Float
  /-- How strictly hits are judged, from 0, the strictest, to 3. -/
  rank : UInt8
  total : Float
  noteCount : Nat
  duration : Float
  startDensity : Float
  averageDensity : Float
  peakDensity : Float
  md5 : String
  sha256 : String
deriving DecidableEq, Repr

namespace Chart

def empty : Chart where
  title := ""
  subtitle := ""
  artist := ""
  genre := ""
  playLevel := 0
  notes := []
  sounds := []
  pictures := []
  tempoChanges := []
  freezes := []
  initialTempo := defaultTempo
  minTempo := defaultTempo
  maxTempo := defaultTempo
  mainTempo := defaultTempo
  middleTempo := defaultTempo
  rank := defaultRank
  total := defaultTotal 0
  noteCount := 0
  duration := 0.0
  startDensity := 0.0
  averageDensity := 0.0
  peakDensity := 0.0
  md5 := ""
  sha256 := ""

def laneNotes (chart : Chart) (lane : Lane) : List Note :=
  chart.notes.filter fun note => note.lane = lane

def usedLanes (chart : Chart) : List Lane :=
  ((chart.notes.map Note.lane).mergeSort Lane.precedes).eraseReps

def lastNoteTime (chart : Chart) : Float :=
  match chart.notes.getLast? with
  | some note => note.time
  | none => 0.0

/-- The score of a play with the best judgment on every note, as a 32-bit word. -/
def maxExScore (chart : Chart) : UInt32 := UInt32.ofNat chart.noteCount * 2

end Chart
end NoteChart
