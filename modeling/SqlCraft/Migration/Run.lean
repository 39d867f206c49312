/-
**Migrations: bringing a database to the declared tables.**

A table is changed if the snapshot does not hold it as it is declared. The changed tables of a group
are rebuilt together, in five phases:

1. their previous foreign keys are dropped, and so are the keys that other recorded tables hold on
   changed tables that are recorded;
2. each is dropped and created;
3. the foreign keys of those that were created are added;
4. the keys of other tables that were dropped are added again;
5. those that were created are recorded in the snapshot.

A step that is refused is reported, and the run goes on. Without a database nothing is executed and
every step counts as granted.

* `Migration.diff` — the declared tables that are changed;
* `Migration.runGroup`, `Migration.runGroups` — the run over one group and over all;
* `Migration.migrate` — validation, the run, and saving the snapshot if a table was created.
-/

import SqlCraft.Client
import SqlCraft.Migration.Report
import SqlCraft.Migration.Store
import SqlCraft.Table.Definition
import SqlCraft.Table.Validity

namespace SqlCraft

/-- Whether the snapshot does not hold a table as it is declared. -/
def Snapshot.isChanged (snapshot : Snapshot) (table : Table) : Bool :=
  !(snapshot.get? table.name).any fun recorded => recorded == table

namespace Migration

/-- The names of the declared tables that are changed. -/
def diff (snapshot : Snapshot) (groups : List TableGroup) : List String :=
  (groups.flatten.filter snapshot.isChanged).map Table.name

/-! ### Steps -/

/-- Makes a step: the event of the attempt, and whether it was granted. -/
def perform (database : Option Database) (step : Step) : Session (MigrationEvent × Bool) :=
  match database with
  | none => return (.attempted step none, true)
  | some database => do
    match ← Client.query database ⟨step.sql, []⟩ with
    | .ok _ => return (.attempted step none, true)
    | .error error => return (.attempted step (some error.message), false)

/-- Makes steps one after another, whatever becomes of them. -/
def performAll (database : Option Database) (steps : List Step) : Session (List MigrationEvent) :=
  steps.mapM fun step => Prod.fst <$> perform database step

/-- Makes one step for each item; the events, and the items whose step was granted. -/
def performEach {α : Type} (database : Option Database) (step : α → Step) :
    List α → Session (List MigrationEvent × List α)
  | [] => return ([], [])
  | item :: rest => do
    let (event, granted) ← perform database (step item)
    let (events, items) ← performEach database step rest
    return (event :: events, if granted then item :: items else items)

/-! ### The steps of a group -/

/-- The steps that drop the recorded foreign keys of changed tables. -/
def ownKeySteps (snapshot : Snapshot) (changed : List Table) : List Step :=
  changed.flatMap fun table =>
    match snapshot.get? table.name with
    | some recorded => recorded.dropForeignKeySqls.map fun sql => ⟨table.name, .dropForeignKey, sql⟩
    | none => []

/-- A foreign key with the table and the column that hold it. -/
structure HeldKey where
  holder : String
  column : String
  key : ForeignKey
deriving DecidableEq, Repr

namespace HeldKey

/-- The step that drops the key. -/
def dropStep (held : HeldKey) : Step :=
  ⟨held.holder, .dropForeignKey, Table.dropForeignKeySql held.holder held.key⟩

/-- The step that adds the key. -/
def createStep (held : HeldKey) : Step :=
  ⟨held.holder, .createForeignKey, Table.addForeignKeySql held.holder held.column held.key⟩

end HeldKey

/-- The keys that recorded tables hold on changed tables that are recorded, without the keys of
changed tables. -/
def inboundKeys (snapshot : Snapshot) (changed : List Table) : List HeldKey :=
  let names := changed.map Table.name
  (snapshot.tables.filter fun table => !names.contains table.name).flatMap fun table =>
    (table.foreignKeys.filter fun entry =>
        names.contains entry.2.table && snapshot.contains entry.2.table).map
      fun (column, key) => ⟨table.name, column, key⟩

/-- The step that drops a changed table: the recorded one, or one that may not be there. -/
def dropStep (snapshot : Snapshot) (table : Table) : Step :=
  match snapshot.get? table.name with
  | some recorded => ⟨table.name, .dropTable, recorded.dropSql⟩
  | none => ⟨table.name, .dropTable, table.dropIfExistsSql⟩

/-- The step that creates a table. -/
def createStep (table : Table) : Step := ⟨table.name, .createTable, table.createSql⟩

/-- The steps that add the foreign keys of tables. -/
def linkSteps (tables : List Table) : List Step :=
  tables.flatMap fun table =>
    table.createForeignKeySqls.map fun sql => ⟨table.name, .createForeignKey, sql⟩

/-- Drops and creates tables; the events, and the tables that were created. -/
def rebuild (database : Option Database) (snapshot : Snapshot) :
    List Table → Session (List MigrationEvent × List Table)
  | [] => return ([], [])
  | table :: rest => do
    let (dropped, _) ← perform database (dropStep snapshot table)
    let (made, granted) ← perform database (createStep table)
    let (events, created) ← rebuild database snapshot rest
    return (.rebuilding table.name :: dropped :: made :: events,
      if granted then table :: created else created)

/-! ### The run -/

/-- Rebuilds changed tables; the events, and the tables that were created. -/
def rebuildGroup (database : Option Database) (snapshot : Snapshot) (changed : List Table) :
    Session (List MigrationEvent × List Table) := do
  let unlinking ← performAll database (ownKeySteps snapshot changed)
  let (detaching, detached) ←
    performEach database HeldKey.dropStep (inboundKeys snapshot changed)
  let (rebuilding, created) ← rebuild database snapshot changed
  let linking ← performAll database (linkSteps created)
  let attaching ← performAll database (detached.map HeldKey.createStep)
  return (unlinking ++ detaching ++ rebuilding ++ linking ++ attaching, created)

/-- The snapshot with tables recorded under their names, one after another. -/
def record (snapshot : Snapshot) (tables : List Table) : Snapshot :=
  tables.foldl (fun snapshot table => snapshot.insert table.name table) snapshot

/-- Runs over a group; the events and the snapshot behind it. -/
def runGroup (database : Option Database) (group : TableGroup) (snapshot : Snapshot) :
    Session (List MigrationEvent × Snapshot) := do
  let changed := group.filter snapshot.isChanged
  let kept := (group.filter fun table => !snapshot.isChanged table).map fun table =>
    MigrationEvent.unchanged table.name
  if changed.isEmpty then return (kept, snapshot)
  let (events, created) ← rebuildGroup database snapshot changed
  return (kept ++ events ++ created.map (fun table => .created table.name), record snapshot created)

/-- Runs over groups in order; the events and the snapshot behind them. -/
def runGroups (database : Option Database) :
    List TableGroup → Snapshot → Session (List MigrationEvent × Snapshot)
  | [], snapshot => return ([], snapshot)
  | group :: rest, snapshot => do
    let (first, snapshot) ← runGroup database group snapshot
    let (later, snapshot) ← runGroups database rest snapshot
    return (first ++ later, snapshot)

/-- Migrates a database, or only reports what would be done if there is none; the outcome, and the
store behind it. -/
def migrate (database : Option Database) (groups : List TableGroup) (store : Store) :
    Session (Except RunError MigrationReport × Store) := do
  match Table.validateAll groups.flatten with
  | .error cause => return (.error (.compile cause), store)
  | .ok () =>
    let (events, snapshot) ← runGroups database groups store.load
    let report : MigrationReport := ⟨events⟩
    if database.isNone || report.created.isEmpty then return (.ok report, store)
    match store.save? snapshot with
    | some saved => return (.ok report, saved)
    | none => return (.error .io, store)

end Migration

end SqlCraft
