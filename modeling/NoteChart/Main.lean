import NoteChart.Command.Run
import NoteChart.Json.Printer

/-!
The program. It reads the files that the command line names, prints the answer as JSON, and tells
of failures on the error output.
-/
namespace NoteChart

open Command

def usageText : String :=
  "usage: compile <chart> [--stats]\n" ++
    "       play <chart> [--config <file>] [--inputs <file>] [--autoplay] [--events]"

def readFile? (name : String) : IO (Option (List UInt8)) := do
  try
    let bytes ← IO.FS.readBinFile name
    return some bytes.data.toList
  catch _ => return none

def readFiles (names : List String) : IO (List (String × List UInt8)) := do
  let read ← names.mapM fun name => do
    let bytes? ← readFile? name
    return bytes?.map fun bytes => (name, bytes)
  return read.filterMap id

def answer (words : List String) : IO (Except Failure Json) := do
  match Command.read words with
  | .error e => return .error (.usage e)
  | .ok invocation =>
    let files ← readFiles invocation.files
    return run (fun name => List.lookup name files) invocation

end NoteChart

def main (words : List String) : IO UInt32 := do
  match ← NoteChart.answer words with
  | .ok j =>
    IO.println j.pretty
    return 0
  | .error (.usage .help) =>
    IO.println NoteChart.usageText
    return 0
  | .error (.usage _) =>
    IO.eprintln NoteChart.usageText
    return 2
  | .error failure =>
    IO.eprintln s!"Error: {failure.message}"
    return 1
