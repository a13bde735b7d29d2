import NoteChart.Gauge.AutoShift
import NoteChart.Play.Config
import NoteChart.Play.Cursor
import NoteChart.Play.Result

/-!
One attempt at a chart. The host moves the clock and reports key presses; the session answers with
what happens: background events that are due, judgments, shifts of the gauge and failure. Notes
are judged near a cursor, the first note without a judgment; a failed session answers nothing.
-/
namespace NoteChart

structure JudgeEvent where
  /-- The place of the note, unless the press was too early for any. -/
  index? : Option Nat
  lane : Lane
  judgment : Judgment
  diff : Float
  combo : UInt32
  empty : Bool
deriving DecidableEq, Repr

inductive PlayEvent where
  | judge (event : JudgeEvent)
  | sound (sound : Sound)
  | picture (picture : Picture)
  | tempo (change : TempoChange)
  | shift (source target : GaugeKind)
  | failed
deriving DecidableEq, Repr

structure Setup where
  chart : Chart
  config : PlayConfig
  windows : JudgeWindows
deriving DecidableEq, Repr

structure Session where
  setup : Setup
  clock : Float
  tempo : Float
  cursor : Nat
  judged : Array Bool
  sounds : Cursor
  tempos : Cursor
  pictures : Cursor
  score : Score
  ladder : GaugeLadder
  failed : Bool
deriving DecidableEq, Repr

def lookBack : Nat := 8

/-- How many notes from the cursor on are considered at a time. -/
def lookAhead : Nat := 150

/-- How far past the clock notes are considered when it moves, in milliseconds. -/
def futureTolerance : Float := 1000.0

namespace Setup

def start (setup : Setup) : Session where
  setup
  clock := Binary64.negInfinity
  tempo := setup.chart.initialTempo
  cursor := 0
  judged := Array.replicate setup.chart.notes.length false
  sounds := Cursor.start
  tempos := Cursor.start
  pictures := Cursor.start
  score := Score.zero
  ladder := GaugeLadder.ofElements (GaugeElement.standard setup.config.emptyPoorKills)
    setup.config.gauge setup.chart.total setup.chart.noteCount
  failed := false

end Setup

namespace Session

def new (chart : Chart) (config : PlayConfig) : Except ConfigError Session :=
  match config.validate with
  | .error e => .error e
  | .ok () =>
    .ok (Setup.start
      { chart := chart.modify config.modifier, config, windows := config.windowsFor chart.rank })

def restart (s : Session) : Session := s.setup.start

def notes (s : Session) : List Note := s.setup.chart.notes

def isJudged (s : Session) (index : Nat) : Bool := s.judged.getD index false

def isFinished (s : Session) : Bool := s.failed || s.judged.size ≤ s.cursor

/-- The notes from place `first` to `lookAhead` after the cursor, with their places. -/
def window (s : Session) (first : Nat) : List (Note × Nat) :=
  ((s.notes.drop first).take (s.cursor + lookAhead - first)).zipIdx first

def fail (s : Session) : List PlayEvent × Session := ([.failed], { s with failed := true })

def settle (s : Session) : List PlayEvent × Session :=
  if s.setup.config.autoShift then
    match s.ladder.decideShift s.ladder.start s.setup.config.shiftFloor with
    | .stay => ([], s)
    | .to kind => ([.shift s.ladder.active kind], { s with ladder := s.ladder.activate kind })
    | .fail => s.fail
  else if s.ladder.active.isSurvival && s.ladder.activeGauge.isDead then s.fail
  else ([], s)

def apply (s : Session) (index? : Option Nat) (lane : Lane) (judgment : Judgment) (diff : Float)
    (empty : Bool) : List PlayEvent × Session :=
  let score := s.score.record judgment diff empty
  let entered := { s with score, ladder := s.ladder.update judgment empty }
  let (events, settled) := entered.settle
  (.judge { index?, lane, judgment, diff, combo := score.combo, empty } :: events, settled)

def judgeNote (s : Session) (index : Nat) (lane : Lane) (judgment : Judgment) (diff : Float) :
    List PlayEvent × Session :=
  { s with judged := s.judged.setIfInBounds index true }.apply (some index) lane judgment diff false

def skipJudged (s : Session) : Session :=
  { s with cursor := s.cursor + ((s.judged.toList.drop s.cursor).takeWhile id).length }

def fireBackground (s : Session) (now : Float) : List PlayEvent × Session :=
  let chart := s.setup.chart
  let (sounds, soundCursor) := s.sounds.fire Sound.time chart.sounds now
  let (changes, tempoCursor) := s.tempos.fire TempoChange.time chart.tempoChanges now
  let (pictures, pictureCursor) := s.pictures.fire Picture.time chart.pictures now
  let tempo := match changes.getLast? with
    | some change => change.bpm
    | none => s.tempo
  (sounds.map .sound ++ changes.map .tempo ++ pictures.map .picture,
    { s with tempo, sounds := soundCursor, tempos := tempoCursor, pictures := pictureCursor })

/-- What the clock alone brings upon a note without a judgment: in autoplay the best judgment once
its time has come, otherwise a miss once its last window has closed. -/
def due? (s : Session) (now : Float) (note : Note) : Option (Judgment × Float) :=
  let late := now - s.setup.config.inputOffset - note.time
  if s.setup.config.autoplay then
    if note.time ≤ now then some (.pgreat, 0.0) else none
  else if s.setup.windows.bad < late then some (.poor, late)
  else none

/-- Goes through notes in order until one is too far in the future or the play fails. -/
def sweep (now : Float) : List (Note × Nat) → Session → List PlayEvent × Session
  | [], s => ([], s)
  | (note, index) :: rest, s =>
    if now + futureTolerance < note.time then ([], s)
    else if s.isJudged index then sweep now rest s
    else match s.due? now note with
      | none => sweep now rest s
      | some (judgment, diff) =>
        let (events, judged) := s.judgeNote index note.lane judgment diff
        if judged.failed then (events, judged)
        else
          let (later, final) := sweep now rest judged
          (events ++ later, final)

def advance (s : Session) (time : Float) : List PlayEvent × Session :=
  if s.failed then ([], s)
  else
    let now := Binary64.larger s.clock time
    let (background, fired) := { s with clock := now }.fireBackground now
    let (judgments, swept) := sweep now (fired.window fired.cursor) fired
    (background ++ judgments, swept.skipJudged)

structure Target where
  index : Nat
  diff : Float
deriving DecidableEq, Repr

def targets (s : Session) (lane : Lane) (time : Float) (notes : List (Note × Nat)) : List Target :=
  notes.filterMap fun (note, index) =>
    if s.isJudged index || note.lane ≠ lane then none else some ⟨index, time - note.time⟩

def nearest? (targets : List Target) : Option Target :=
  targets.foldl (fun best? target =>
    match best? with
    | some best => if target.diff.abs < best.diff.abs then some target else some best
    | none => some target) none

/-- The target that a press hits: the nearest within the window of BAD. -/
def hit? (windows : JudgeWindows) (targets : List Target) : Option Target :=
  nearest? (targets.filter fun target => target.diff.abs ≤ windows.bad)

/-- The first target that a press without a hit is too early for. -/
def early? (windows : JudgeWindows) (targets : List Target) : Option Target :=
  targets.find? fun target => windows.bad < -target.diff && -target.diff ≤ windows.poor

def answer (s : Session) (lane : Lane) (targets : List Target) : List PlayEvent × Session :=
  match hit? s.setup.windows targets with
  | some target =>
    let judgment := (s.setup.windows.classify target.diff).getD .bad
    let (events, judged) := s.judgeNote target.index lane judgment target.diff
    (events, judged.skipJudged)
  | none =>
    match early? s.setup.windows targets with
    | some target => s.apply none lane .poor target.diff true
    | none => ([], s)

/-- A key press on a lane. It is ignored in autoplay. -/
def press (s : Session) (lane : Lane) (time : Float) : List PlayEvent × Session :=
  if s.failed || s.setup.config.autoplay then ([], s)
  else
    let corrected := time - s.setup.config.inputOffset
    s.answer lane (s.targets lane corrected (s.window (s.cursor - lookBack)))

def candidates (s : Session) : List GaugeKind :=
  if s.setup.config.autoShift then GaugeKind.between s.setup.config.shiftFloor s.ladder.start
  else [s.ladder.active]

def result (s : Session) : PlayResult :=
  let exScore := s.score.exScore
  let maxExScore := s.setup.chart.maxExScore
  { lamp := Lamp.classify s.score s.setup.chart.noteCount s.ladder s.candidates s.failed
    grade := Grade.ofScore exScore maxExScore
    exScore
    maxExScore
    counts := s.score.counts
    fast := s.score.fast
    slow := s.score.slow
    maxCombo := s.score.maxCombo
    comboBreaks := s.score.comboBreaks
    emptyPoors := s.score.emptyPoors
    activeGauge := s.ladder.active
    finalGauges := s.ladder.values.map some
    failed := s.failed }

inductive Call where
  | advance (time : Float)
  | press (lane : Lane) (time : Float)
  | restart
deriving DecidableEq, Repr

def step (s : Session) : Call → List PlayEvent × Session
  | .advance time => s.advance time
  | .press lane time => s.press lane time
  | .restart => ([], s.restart)

def run (s : Session) : List Call → List PlayEvent × Session
  | [] => ([], s)
  | call :: rest =>
    let (events, next) := s.step call
    let (later, final) := run next rest
    (events ++ later, final)

end Session
end NoteChart
