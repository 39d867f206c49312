/-
**The program.**

Reads the files that the arguments name, runs, prints, and writes the snapshot file if the run has
changed it. There is no connection to a server behind it: a migration that is not a dry run finds
every statement refused.
-/

import SqlCraft.Cli.Run

namespace SqlCraft.Cli

/-- The text of a file, if it is there and is text. -/
def readText? (path : String) : IO (Option String) := do
  try return some (← IO.FS.readFile path) catch _ => return none

/-- What the program does with its arguments. -/
def start (arguments : List String) : IO UInt32 := do
  match Arguments.parse (← IO.getEnv "DATABASE_URL") arguments with
  | .error ending =>
    let output ← if ending.exitCode = 0 then IO.getStdout else IO.getStderr
    output.putStr (ending.text "sqlcraft")
    return ending.exitCode
  | .ok arguments =>
    let schema ← readText? arguments.schema
    let stored ← readText? arguments.snapshot
    match run (.refusing "not connected to a server") arguments schema (.file stored) with
    | .error failure =>
      IO.eprintln ("Error: " ++ failure.message)
      return failure.exitCode
    | .ok outcome =>
      IO.print (outcome.text arguments.verbose)
      if let .file (some text) := outcome.store then
        if stored ≠ some text then IO.FS.writeFile arguments.snapshot text
      return 0

end SqlCraft.Cli

/-- Runs the program. -/
def main (arguments : List String) : IO UInt32 := SqlCraft.Cli.start arguments
