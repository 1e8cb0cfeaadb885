import Volley.Command
import Volley.Console.Plain

/-!
# The program

Runs the command line of the process over its environment and its files. The transport answers every
request at once with success, so a run is a rehearsal of the scenario.
-/

namespace Volley

namespace Program

/-- The variables of the process that settings are read from. -/
def environment : IO Environment := do
  let read (name : String) : IO (Option (String × String)) := do
    return (← IO.getEnv name).map fun value => (name, value)
  return (← Environment.names.mapM read).filterMap id

/-- The file that a command line names, as far as it can be read. -/
def files (args : List String) : IO (Loader.Files (Routine Float)) := do
  match Arguments.parse args with
  | .run { file := some typed, .. } =>
    try
      return ({} : Loader.Files (Routine Float)).put (Path.ofText typed)
        (.text (← IO.FS.readFile typed))
    -- A file that cannot be read is not there.
    catch _ => return {}
  | _ => return {}

/-- Writes the summary file that a command line asks for, if there is one to write. -/
def writeSummary (args : List String) (outcome : Command.Outcome) : IO Unit := do
  match Arguments.parse args with
  | .run { summaryJson := some typed, .. } =>
    let path := Path.ofText typed
    -- The run left the content in its own files; it is copied to those of the process.
    match outcome.files.textAt? path with
    | none => return
    | some content =>
      IO.FS.createDirAll path.parent.text
      IO.FS.writeFile path.text content
  | _ => return

/-- Shows what a run of the program did and gives its exit status. -/
def report (outcome : Command.Outcome) : IO UInt32 := do
  for line in outcome.lines do
    IO.eprintln line.text
  IO.print outcome.output
  for event in outcome.console do
    for line in event.plainLines do
      IO.println line
  match outcome.ending with
  | .exit status => return UInt32.ofNat status
  | .crash error =>
    IO.eprintln error.message
    return 1
  | .aborted fault =>
    IO.eprintln fault.headline
    return 1

end Program

end Volley

open Volley in
def main (args : List String) : IO UInt32 := do
  let outcome := Command.execute
    { environment := ← Program.environment
      files := ← Program.files args
      now := (← IO.monoMsNow).toFloat / 1000
      budget := Pool.ampleBudget } args
  Program.writeSummary args outcome
  Program.report outcome
