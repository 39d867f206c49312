/-
**Log entries: what the program says beside its results.**

An entry is a tag five characters wide, a message and named fields. Values are written as they are,
so an entry may go over several lines.

* `LogEntry.text` — an entry as it is printed;
* `MigrationReport.log`, `Store.log` — the entries of a migration and of loading a snapshot.
-/

import SqlCraft.Migration.Report
import SqlCraft.Migration.Store

namespace SqlCraft.Cli

/-- How much an entry matters. -/
inductive LogLevel where
  | debug
  | info
  | warning
deriving DecidableEq, Repr

/-- The tag of a level. -/
def LogLevel.tag : LogLevel → String
  | .debug => "DEBUG"
  | .info => " INFO"
  | .warning => " WARN"

/-- An entry of the log. -/
structure LogEntry where
  level : LogLevel
  message : String
  fields : List (String × String) := []
deriving DecidableEq, Repr

namespace LogEntry

/-- The entry as it is printed. -/
def text (entry : LogEntry) : String :=
  entry.level.tag ++ " " ++ entry.message ++
    String.join (entry.fields.map fun (name, value) => " " ++ name ++ "=" ++ value)

/-- Whether the entry is printed: the least level needs a verbose program. -/
def isShown (verbose : Bool) (entry : LogEntry) : Bool := verbose || entry.level != .debug

end LogEntry

end SqlCraft.Cli

namespace SqlCraft

open Cli (LogEntry)

/-- The entries for an event of a migration. -/
def MigrationEvent.log : MigrationEvent → List LogEntry
  | .unchanged table => [⟨.debug, "Table unchanged", [("table", table)]⟩]
  | .rebuilding table => [⟨.info, "Rebuilding table", [("table", table)]⟩]
  | .attempted step cause =>
    ⟨.debug, "Executing DDL", [("table", step.table), ("sql", step.sql)]⟩ ::
      match cause with
      | some cause => [⟨.warning, "Migration step failed, continuing",
          [("table", step.table), ("step", step.kind.label), ("error", cause)]⟩]
      | none => []
  | .created _ => []

/-- The entries for a migration. -/
def MigrationReport.log (report : MigrationReport) (dryRun : Bool) : List LogEntry :=
  report.events.flatMap MigrationEvent.log ++
    [⟨.info, "Migration finished",
      [("created", toString report.created.length), ("unchanged", toString report.unchanged.length),
        ("failures", toString report.failures.length), ("dry_run", toString dryRun)]⟩]

/-- The entries for loading the snapshot from a file of the given name. -/
def Store.log (path : String) : Store → List LogEntry
  | .file none => [⟨.debug, "No snapshot yet", [("path", path)]⟩]
  | .file (some text) =>
    match Json.readText Snapshot.reader text with
    | .ok _ => []
    | .error fault => [⟨.warning, "Cannot parse snapshot, starting empty",
        [("path", path), ("error", fault.message?.getD "malformed JSON")]⟩]
  | .memory _ => []
  | .unwritable => []

end SqlCraft
