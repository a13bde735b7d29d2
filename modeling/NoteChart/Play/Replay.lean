import NoteChart.Play.Session

/-!
Replaying a log of key presses. The presses with a finite time are made in the order of their
times; then the clock is moved past each note that is left, so that its miss is as late as in live
play, and at last to the end of the chart.
-/
namespace NoteChart

structure InputRecord where
  time : Float
  lane : Lane
deriving DecidableEq, Repr

namespace Session

def makePresses (s : Session) : List InputRecord → List PlayEvent × Session
  | [] => ([], s)
  | input :: rest =>
    let (background, advanced) := s.advance input.time
    let (answer, pressed) := advanced.press input.lane input.time
    if pressed.failed then (background ++ answer, pressed)
    else
      let (later, final) := makePresses pressed rest
      (background ++ answer ++ later, final)

def missTime (s : Session) (note : Note) : Float :=
  note.time + s.setup.config.inputOffset + (s.setup.windows.bad + 1.0)

/-- Moves the clock past one note after the other. It ends with the play, or when a move leaves
the cursor where it was. -/
def drain (notes : List Note) (s : Session) : List PlayEvent × Session :=
  if s.isFinished then ([], s)
  else
    match _found : notes[s.cursor]? with
    | none => ([], s)
    | some note =>
      let (events, advanced) := s.advance (s.missTime note)
      if _moved : s.cursor < advanced.cursor then
        let (later, final) := drain notes advanced
        (events ++ later, final)
      else (events, advanced)
termination_by notes.length - s.cursor
decreasing_by
  have := (List.getElem?_eq_some_iff.mp _found).1
  omega

end Session

/-- The log as it is played: finite times, earliest first, equal ones as they come. -/
def orderInputs (inputs : List InputRecord) : List InputRecord :=
  (inputs.filter fun input => input.time.isFinite).mergeSort fun a b =>
    Binary64.totalLE a.time b.time

def replay (chart : Chart) (config : PlayConfig) (inputs : List InputRecord) :
    Except ConfigError (List PlayEvent × Session) :=
  match Session.new chart config with
  | .error e => .error e
  | .ok session =>
    let (pressEvents, pressed) := session.makePresses (orderInputs inputs)
    let (missEvents, drained) := Session.drain pressed.notes pressed
    let (endEvents, final) := drained.advance drained.setup.chart.duration
    .ok (pressEvents ++ missEvents ++ endEvents, final)

end NoteChart
