import NoteChart.Chart.Compile
import NoteChart.Command.Arguments
import NoteChart.Command.Summary
import NoteChart.Json.Config
import NoteChart.Json.Event
import NoteChart.Json.Parser
import NoteChart.Json.Result
import NoteChart.Play.Replay
import NoteChart.Text.Decoding

/-!
What the commands do, with files as a function from names to contents. A failure tells what was
being done to which file, and why it could not be done.
-/
namespace NoteChart

def InputRecord.ofJson? (j : Json) : Option InputRecord := do
  let fields ← j.fields? ["time_ms", "lane"]
  let time ← fields.required "time_ms" Json.float?
  let lane ← fields.required "lane" Lane.ofJson?
  return { time, lane }

namespace Command

inductive Use where
  | chart
  | config
  | inputs
deriving DecidableEq, Repr

def Use.label : Use → String
  | .chart => "chart"
  | .config => "config"
  | .inputs => "input log"

inductive Failure where
  | usage (error : UsageError)
  | unreadable (use : Use) (file : String)
  | malformed (use : Use) (file : String)
  | badChart (file : String) (error : Chart.BuildError)
  | badConfig (file : String) (error : ConfigError)
  | noSession (error : ConfigError)
deriving DecidableEq, Repr

/-- What is said of a failure; the help system speaks for faulty usage. -/
def Failure.message : Failure → String
  | .usage _ => ""
  | .unreadable use file => s!"reading {use.label} {file}"
  | .malformed use file => s!"parsing {use.label} {file}"
  | .badChart file error => s!"compiling chart {file}: {error.message}"
  | .badConfig file error => s!"invalid config {file}: {error.message}"
  | .noSession error => s!"starting session: {error.message}"

abbrev Files := String → Option (List UInt8)

def Files.read (files : Files) (use : Use) (file : String) : Except Failure (List UInt8) :=
  match files file with
  | some bytes => .ok bytes
  | none => .error (.unreadable use file)

/-- The JSON value in a file, which must be UTF-8. -/
def Files.readJson (files : Files) (use : Use) (file : String) : Except Failure Json := do
  let bytes ← files.read use file
  match Text.clean? (Text.Utf8.decode bytes) with
  | none => .error (.unreadable use file)
  | some text =>
    match Json.parseChars? text with
    | some j => .ok j
    | none => .error (.malformed use file)

def loadChart (files : Files) (file : String) : Except Failure Chart := do
  let bytes ← files.read .chart file
  match Chart.ofText .wrapping (String.ofList (Text.decodeFile bytes)) with
  | .ok chart => .ok chart
  | .error e => .error (.badChart file e)

def loadConfig (files : Files) (file : String) : Except Failure PlayConfig := do
  let j ← files.readJson .config file
  match PlayConfig.ofJson? j with
  | none => .error (.malformed .config file)
  | some config =>
    match config.validate with
    | .ok () => .ok config
    | .error e => .error (.badConfig file e)

def loadInputs (files : Files) (file : String) : Except Failure (List InputRecord) := do
  let j ← files.readJson .inputs file
  match j.list? InputRecord.ofJson? with
  | some inputs => .ok inputs
  | none => .error (.malformed .inputs file)

def loadOr {α : Type} (default : α) (load : String → Except Failure α) :
    Option String → Except Failure α
  | some file => load file
  | none => .ok default

def report (result : PlayResult) (events : List PlayEvent) : Json :=
  .record (result.toFields ++
    [("rate", .ofFloat result.rate), ("miss_count", .nat result.missCount.toNat)] ++
    (if events = [] then [] else [("events", .ofList PlayEvent.toJson events)]))

def runCompile (files : Files) (file : String) (stats : Bool) : Except Failure Json := do
  let chart ← loadChart files file
  return if stats then chart.summaryToJson else chart.toJson

def runPlay (files : Files) (file : String) (config? inputs? : Option String)
    (autoplay showEvents : Bool) : Except Failure Json := do
  let chart ← loadChart files file
  let config ← loadOr .standard (loadConfig files) config?
  let config := { config with autoplay := config.autoplay || autoplay }
  let inputs ← loadOr [] (loadInputs files) inputs?
  match replay chart config inputs with
  | .error e => .error (.noSession e)
  | .ok (events, session) => .ok (report session.result (if showEvents then events else []))

def run (files : Files) : Invocation → Except Failure Json
  | .compile chart stats => runCompile files chart stats
  | .play chart config? inputs? autoplay events =>
    runPlay files chart config? inputs? autoplay events

def Invocation.files : Invocation → List String
  | .compile chart _ => [chart]
  | .play chart config? inputs? _ _ => chart :: config?.toList ++ inputs?.toList

end Command
end NoteChart
