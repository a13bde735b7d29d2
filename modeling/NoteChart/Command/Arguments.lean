/-!
The command line. There are two commands, each with a chart file, and options that start with two
dashes. Words are taken one after the other; a word that cannot be placed is reported at once, and
what an option or a file turned out to be is checked when the next word that can be placed comes,
or at the end.
-/
namespace NoteChart.Command

inductive Invocation where
  | compile (chart : String) (stats : Bool)
  | play (chart : String) (config? inputs? : Option String) (autoplay events : Bool)
deriving DecidableEq, Repr

inductive UsageError where
  | help
  /-- No command was given, which is answered by the help text. -/
  | noCommand
  | unknownCommand
  | unknownArgument
  | missingArgument
  | repeatedArgument
  | needlessValue
  | emptyValue
deriving DecidableEq, Repr

inductive Name where
  | chart
  | config
  | inputs
  | stats
  | autoplay
  | events
deriving DecidableEq, Repr

structure Options where
  valued : List (String × Name)
  switches : List (String × Name)

def compileOptions : Options := { valued := [], switches := [("stats", .stats)] }

def playOptions : Options where
  valued := [("config", .config), ("inputs", .inputs)]
  switches := [("autoplay", .autoplay), ("events", .events)]

structure Pending where
  name : Name
  value? : Option String

structure State where
  values : List (Name × String)
  switches : List Name
  pending? : Option Pending
  awaiting : Bool
  named : Bool
  /-- After two dashes alone, every word is a file. -/
  filesOnly : Bool

namespace State

def start : State :=
  { values := [], switches := [], pending? := none, awaiting := false, named := false
    filesOnly := false }

/-- Checks the pending value: it must be there, not empty, and the only one of its name. -/
def resolve (s : State) : Except UsageError State :=
  match s.pending? with
  | none => .ok s
  | some ⟨_, none⟩ => .error .emptyValue
  | some ⟨name, some value⟩ =>
    if (s.values.lookup name).isSome then .error .repeatedArgument
    else if value = "" then .error .emptyValue
    else .ok { s with values := s.values ++ [(name, value)], pending? := none }

def hold (s : State) (name : Name) (value? : Option String) : Except UsageError State :=
  s.resolve.map fun s => { s with pending? := some ⟨name, value?⟩, awaiting := value?.isNone }

def file (s : State) (word : String) : Except UsageError State :=
  if s.named then .error .unknownArgument
  else (s.hold .chart (some word)).map fun s => { s with named := true }

def switch (s : State) (name : Name) : Except UsageError State := do
  let s ← s.resolve
  if s.switches.contains name then .error .repeatedArgument
  else .ok { s with switches := s.switches ++ [name], awaiting := false }

def help (s : State) : Except UsageError State := do
  let _ ← s.resolve
  .error .help

def splitValue (word : List Char) : String × Option String :=
  let name := word.takeWhile (· ≠ '=')
  match word.dropWhile (· ≠ '=') with
  | [] => (String.ofList name, none)
  | _ :: value => (String.ofList name, some (String.ofList value))

def longOption (options : Options) (s : State) (word : List Char) : Except UsageError State :=
  let (name, value?) := splitValue word
  match options.valued.lookup name with
  | some option =>
    match value? with
    | some value => do
      let s ← s.hold option (some value)
      s.resolve
    | none => s.hold option none
  | none =>
    match options.switches.lookup name, value? with
    | some option, none => s.switch option
    | some _, some _ => .error .needlessValue
    | none, value? =>
      if name = "help" then
        match value? with
        | none => s.help
        | some _ => .error .needlessValue
      else .error .unknownArgument

def word (options : Options) (s : State) (text : String) : Except UsageError State :=
  if s.filesOnly then s.file text
  else match text.toList with
    | ['-', '-'] => .ok { s with filesOnly := true }
    | '-' :: '-' :: rest => s.longOption options rest
    | '-' :: 'h' :: _ => s.help
    | '-' :: _ :: _ => .error .unknownArgument
    | _ =>
      match s.awaiting, s.pending? with
      | true, some pending =>
        .ok { s with pending? := some { pending with value? := some text }, awaiting := false }
      | _, _ => s.file text

def words (options : Options) : List String → State → Except UsageError (State × String)
  | [], s => do
    let s ← s.resolve
    match s.values.lookup .chart with
    | some chart => .ok (s, chart)
    | none => .error .missingArgument
  | text :: rest, s => do
    let s ← s.word options text
    words options rest s

end State

def readCompile (words : List String) : Except UsageError Invocation := do
  let (s, chart) ← State.words compileOptions words State.start
  return .compile chart (s.switches.contains .stats)

def readPlay (words : List String) : Except UsageError Invocation := do
  let (s, chart) ← State.words playOptions words State.start
  return .play chart (s.values.lookup .config) (s.values.lookup .inputs)
    (s.switches.contains .autoplay) (s.switches.contains .events)

def readHelp : List String → UsageError
  | [] => .help
  | [word] => if ["compile", "play", "help"].contains word then .help else .unknownCommand
  | _ => .unknownCommand

def readOther (text : String) : UsageError :=
  match text.toList with
  | '-' :: '-' :: rest =>
    let (name, value?) := State.splitValue rest
    if name = "help" then if value?.isSome then .needlessValue else .help else .unknownArgument
  | '-' :: 'h' :: _ => .help
  | '-' :: _ :: _ => .unknownArgument
  | _ => .unknownCommand

/-- After two dashes no word is a command. -/
def readAfterDashes : List String → UsageError
  | [] => .noCommand
  | word :: _ => if ["compile", "play", "help"].contains word then .unknownArgument else .unknownCommand

def read : List String → Except UsageError Invocation
  | [] => .error .noCommand
  | "compile" :: words => readCompile words
  | "play" :: words => readPlay words
  | "help" :: words => .error (readHelp words)
  | "--" :: words => .error (readAfterDashes words)
  | word :: _ => .error (readOther word)

end NoteChart.Command
