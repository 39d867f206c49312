/-
**Reports: what a migration did.**

A report is the list of events of a run, in order. Which tables were created or left alone, which
statements were attempted and which of them failed are views of that list.
-/

import SqlCraft.RunError

namespace SqlCraft

/-- What a step of a migration is for. -/
inductive StepKind where
  | dropForeignKey
  | dropTable
  | createTable
  | createForeignKey
deriving DecidableEq, Repr

/-- The words for a kind of step. -/
def StepKind.label : StepKind → String
  | .dropForeignKey => "drop foreign key"
  | .dropTable => "drop table"
  | .createTable => "create table"
  | .createForeignKey => "create foreign key"

/-- A step of a migration: one statement for the sake of one table. -/
structure Step where
  table : String
  kind : StepKind
  sql : String
deriving DecidableEq, Repr

/-- A step that was refused, and the wording of the reason. -/
structure StepFailure where
  step : Step
  cause : String
deriving DecidableEq, Repr

/-- The wording of a failure. -/
def StepFailure.message (failure : StepFailure) : String :=
  "Migration step '" ++ failure.step.kind.label ++ "' failed on table '" ++ failure.step.table ++
    "': " ++ failure.cause

/-- Something that happens in a migration. -/
inductive MigrationEvent where
  /-- A table is as the snapshot has it. -/
  | unchanged (table : String)
  /-- A table is about to be dropped and created. -/
  | rebuilding (table : String)
  /-- A statement was attempted; it failed if a cause is given. -/
  | attempted (step : Step) (cause : Option String)
  /-- The foreign keys of a group are done, and the table is recorded. -/
  | created (table : String)
deriving DecidableEq, Repr

/-- The events of a migration, in order. -/
structure MigrationReport where
  events : List MigrationEvent
deriving DecidableEq, Repr

namespace MigrationReport

/-- The tables that were created and recorded. -/
def created (report : MigrationReport) : List String :=
  report.events.filterMap fun
    | .created table => some table
    | _ => none

/-- The tables that were as the snapshot had them. -/
def unchanged (report : MigrationReport) : List String :=
  report.events.filterMap fun
    | .unchanged table => some table
    | _ => none

/-- The statements that were attempted. -/
def statements (report : MigrationReport) : List String :=
  report.events.filterMap fun
    | .attempted step _ => some step.sql
    | _ => none

/-- The steps that failed. -/
def failures (report : MigrationReport) : List StepFailure :=
  report.events.filterMap fun
    | .attempted step (some cause) => some ⟨step, cause⟩
    | _ => none

/-- Whether no step failed. -/
def isClean (report : MigrationReport) : Bool := report.failures.isEmpty

end MigrationReport

end SqlCraft
