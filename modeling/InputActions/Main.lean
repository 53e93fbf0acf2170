import InputActions.CommandLine.Run
import InputActions.CommandLine.Usage

/-!
# The command

Collects what a run may read, runs the command, and prints what it said. The clock of a replay is
the surface's own, so nothing is waited for.
-/

namespace InputActions.CommandLine

/-- The text of a file. -/
def entryAt (path : String) : IO Entry := do
  match ← (IO.FS.readFile path).toBaseIO with
  | .ok content => return .text content
  | .error (.noFileOrDirectory ..) => return .missing
  | .error _ => return .unreadable

/-- The files at some paths; there are no others. -/
def filesAt (paths : List String) : IO Files := do
  let entries ← paths.mapM fun path => return (path, ← entryAt path)
  return fun path => ((entries.find? (·.1 == path)).map (·.2)).getD .missing

def environmentOf (names : List String) : IO Environment := do
  let values ← names.mapM fun name => return (← IO.getEnv name).map fun value => (name, value)
  return values.filterMap id

/-- Prints an output and gives the exit code. -/
def finish (output : Output) : IO UInt32 := do
  IO.print output.text
  (← IO.getStdout).flush
  match output.result with
  | .ok () => return 0
  | .error (.usage error) =>
    if error.isWish then IO.println error.message else IO.eprintln error.message
    return if error.isWish then 0 else 2
  | .error error =>
    IO.eprintln ("Error: " ++ error.message)
    match error with
    | .action cause => IO.eprintln ("Cause: " ++ cause.message)
    | _ => pure ()
    return 1

end InputActions.CommandLine

open InputActions.CommandLine in
def main (arguments : List String) : IO UInt32 := do
  match Invocation.ofArguments arguments with
  | .error error => finish ⟨"", .error (.usage error)⟩
  | .ok invocation =>
    let environment ← environmentOf variableNames
    let files ← filesAt (invocation.paths environment)
    finish (invocation.run files environment)
