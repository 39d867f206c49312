/-
**A run of the program: what its commands print.**

A run is given the text of the schema file and the store that the snapshot is kept in. It needs
groups of sound tables and the URL of a database, also where it does not use it; then

* `sql` lists the definition of every table and behind those of a group its foreign keys
  (`listing`);
* `diff` lists the names of the tables that are changed;
* `migrate` migrates, and lists the statements if it is a dry run.

* `run` — what is printed and the store behind the run, or why it fails.
-/

import SqlCraft.Cli.Arguments
import SqlCraft.Cli.ConnectionUrl
import SqlCraft.Cli.Log
import SqlCraft.Migration.Run

namespace SqlCraft.Cli

/-! ### Failures -/

/-- Why a run fails. -/
inductive Failure where
  | schemaUnreadable
  | schemaMalformed (fault : Json.Fault)
  | tableUnsound (cause : CompileError)
  | databaseUrl
  | noConnections
  | migration (error : RunError)

namespace Failure

/-- The code that the program ends with. -/
def exitCode : Failure → UInt32
  | .noConnections => 101
  | _ => 1

/-- The wording of a failure. -/
def message : Failure → String
  | .schemaUnreadable => "the schema file cannot be read"
  | .schemaMalformed fault => fault.message?.getD "the schema file is not JSON"
  | .tableUnsound cause => cause.message
  | .databaseUrl => "the database URL cannot be understood"
  | .noConnections => "at least one connection is needed"
  | .migration error => error.message

end Failure

/-! ### What is printed -/

/-- Something that is printed on lines of its own. -/
inductive Output where
  | log (entry : LogEntry)
  | text (content : String)

/-- The text of some output; entries of the log that are not shown leave nothing. -/
def Output.render (verbose : Bool) : Output → String
  | .log entry => if entry.isShown verbose then entry.text ++ "\n" else ""
  | .text content => content ++ "\n"

/-- The steps that define declared tables: each group's tables, then their foreign keys. -/
def listing (groups : List TableGroup) : List Step :=
  groups.flatMap fun group => group.map Migration.createStep ++ Migration.linkSteps group

/-- A step as it is listed: a blank line sets the definition of a table apart. -/
def listed (step : Step) : Output :=
  match step.kind with
  | .createTable => .text (step.sql ++ ";\n")
  | _ => .text (step.sql ++ ";")

/-- The names of changed tables as they are listed. -/
def listedNames : List String → List Output
  | [] => [.log ⟨.info, "No changes detected.", []⟩]
  | names => names.map .text

/-! ### The run -/

/-- What a run prints, and the store behind it. -/
structure Outcome where
  output : List Output
  store : Store

/-- The text that a run prints. -/
def Outcome.text (outcome : Outcome) (verbose : Bool) : String :=
  String.join (outcome.output.map (Output.render verbose))

/-- The groups of tables in the text of a schema file, if every table is sound. -/
def readGroups (text : Option String) : Except Failure (List TableGroup) := do
  match text with
  | none => .error .schemaUnreadable
  | some text =>
    let groups ← (Json.readText Table.groupsReader text).mapError .schemaMalformed
    (Table.validateAll groups.flatten).mapError .tableUnsound
    return groups

/-- Refuses arguments that no connection could be made with. -/
def Arguments.checkConnection (arguments : Arguments) : Except Failure Unit :=
  if !ConnectionUrl.isAccepted arguments.database then .error .databaseUrl
  else if arguments.maxConnections = 0 then .error .noConnections
  else .ok ()

/-- Migrates and prints what there is to say about it. -/
def runMigration (database : Database) (snapshotPath : String) (dryRun : Bool)
    (groups : List TableGroup) (store : Store) : Except Failure Outcome := do
  let target := if dryRun then none else some database
  let (result, migrated) := (Migration.migrate target groups store []).1
  let report ← result.mapError .migration
  let announced := if dryRun then
      [.log ⟨.info, "Dry run mode - SQL will be printed but not executed.", []⟩]
    else []
  let steps := if dryRun then report.statements.map fun sql => .text (sql ++ ";") else []
  return {
    output :=
      announced ++ (store.log snapshotPath ++ report.log dryRun).map .log ++ steps ++
        report.failures.map (fun failure => .log ⟨.warning, failure.message, []⟩) ++
        [.log ⟨.info, "Done.", [("created", toString report.created.length),
          ("unchanged", toString report.unchanged.length)]⟩]
    store := migrated }

/-- Runs a command. -/
def runCommand (database : Database) (snapshotPath : String) (groups : List TableGroup)
    (store : Store) : Command → Except Failure Outcome
  | .sql => .ok ⟨(listing groups).map listed, store⟩
  | .diff => .ok {
      output := (store.log snapshotPath).map .log ++
        listedNames (Migration.diff store.load groups)
      store }
  | .migrate dryRun => runMigration database snapshotPath dryRun groups store

/-- Runs the program on the text of the schema file and the store of the snapshot. -/
def run (database : Database) (arguments : Arguments) (schema : Option String) (store : Store) :
    Except Failure Outcome := do
  let groups ← readGroups schema
  arguments.checkConnection
  runCommand database arguments.snapshot groups store arguments.command

end SqlCraft.Cli
