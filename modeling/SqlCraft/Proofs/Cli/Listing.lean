/-
**The listing and the dry run print the same definitions.**

The listing goes through the declared tables as they are. The dry run is a migration that makes no call: it
asks a snapshot which tables are changed, takes keys away from other tables and records what it has created.
Where nothing is recorded, none of this matters. Both print group by group, first the definitions of its
tables and then their keys, and all that the dry run has beside them is a `DROP TABLE IF EXISTS` in front of
each definition.

* `Outcome.statements` — the statements among what is printed;
* `clears` — a statement drops a table that need not be there;
* `Cleared` — such a statement stands directly before each definition, and nowhere else;
* `statements_sql`, `statements_dryRun` — what the two commands print;
* `sql_eq_dryRun` — the same, but for the tables that are dropped.
-/

import SqlCraft.Cli.Run
import SqlCraft.Proofs.Migration.Command
import SqlCraft.Proofs.Migration.Fresh

namespace SqlCraft.Cli

open Migration (freshSteps clearStep createStep linkSteps HeldKey)

/-! ### Printed statements -/

/-- The statement in some output, without the semicolon and the blank line behind it. -/
def Output.statement? : Output → Option String
  | .log _ => none
  | .text content =>
    match content.toList.reverse.dropWhile (· == '\n') with
    | ';' :: rest => some (String.ofList rest.reverse)
    | _ => none

/-- The statements that a run prints, in order. -/
def Outcome.statements (outcome : Outcome) : List String := outcome.output.filterMap Output.statement?

theorem Output.statement?_semicolon (sql : String) : statement? (.text (sql ++ ";")) = some sql := by
  simp [statement?]

theorem Output.statement?_blankLine (sql : String) : statement? (.text (sql ++ ";\n")) = some sql := by
  simp [statement?]

theorem statement?_listed (step : Step) : (listed step).statement? = some step.sql := by
  unfold listed
  split
  · exact Output.statement?_blankLine step.sql
  · exact Output.statement?_semicolon step.sql

/-- The log holds no statements. -/
theorem filterMap_log (entries : List LogEntry) :
    (entries.map Output.log).filterMap Output.statement? = [] := by
  simp [Output.statement?]

/-! ### Drops before definitions -/

/-- Whether a statement drops a table that need not be there. -/
def clears (sql : String) : Bool :=
  match Command.read? sql with
  | some (.dropTable _ true) => true
  | _ => false

/-- A table is dropped, if it is there, directly before it is created, and at no other place. -/
structure Cleared (sqls : List String) : Prop where
  /-- A definition is not the first statement. -/
  starts : ∀ name, sqls[0]?.bind Command.read? ≠ some (.createTable name)
  /-- A table is dropped at one place exactly if it is created at the next. -/
  pairs : ∀ index name, sqls[index]?.bind Command.read? = some (.dropTable name true) ↔
    sqls[index + 1]?.bind Command.read? = some (.createTable name)

namespace Cleared

theorem nil : Cleared [] := ⟨fun _ => nofun, fun _ _ => ⟨nofun, nofun⟩⟩

/-- A table is dropped and created before the others. -/
theorem rebuilt (table : Table) {sqls : List String} (rest : Cleared sqls) :
    Cleared (table.dropIfExistsSql :: table.createSql :: sqls) where
  starts name := by simp
  pairs index name := by
    match index with
    | 0 => simp
    | 1 =>
      have behind := rest.starts name
      simpa using behind
    | index + 2 => simpa using rest.pairs index name

/-- Keys are added before the others. -/
theorem linked (keys : List HeldKey) {sqls : List String} (rest : Cleared sqls) :
    Cleared (keys.map (fun held => held.createStep.sql) ++ sqls) := by
  induction keys with
  | nil => exact rest
  | cons held keys ih =>
    constructor
    · intro name
      simp [HeldKey.createStep]
    · intro index name
      cases index with
      | zero =>
        have behind := ih.starts name
        simpa [HeldKey.createStep] using behind
      | succ index => simpa using ih.pairs index name

/-- The steps of a group of unrecorded tables come before the others. -/
theorem fresh (group : TableGroup) {sqls : List String} (rest : Cleared sqls) :
    Cleared ((freshSteps group).map Step.sql ++ sqls) := by
  have tables (behind : List String) (later : Cleared behind) :
      Cleared ((group.flatMap fun table => [clearStep table, createStep table]).map Step.sql ++ behind) := by
    induction group with
    | nil => exact later
    | cons table rest ih => exact ih.rebuilt table
  rw [freshSteps, Migration.linkSteps_eq, List.map_append, List.map_map, List.append_assoc]
  exact tables _ (rest.linked _)

theorem freshAll (groups : List TableGroup) : Cleared ((groups.flatMap freshSteps).map Step.sql) := by
  induction groups with
  | nil => exact nil
  | cons group rest ih =>
    rw [List.flatMap_cons, List.map_append]
    exact ih.fresh group

end Cleared

/-! ### What remains without the drops -/

theorem filter_fresh (group : TableGroup) :
    ((freshSteps group).map Step.sql).filter (fun sql => !clears sql) =
      (group.map createStep ++ linkSteps group).map Step.sql := by
  have cleared (table : Table) : clears (clearStep table).sql := by simp [clears, clearStep]
  have created (table : Table) : clears (createStep table).sql = false := by simp [clears, createStep]
  have linked (held : HeldKey) : clears held.createStep.sql = false := by
    simp [clears, HeldKey.createStep]
  have tables : ((group.flatMap fun table => [clearStep table, createStep table]).map Step.sql).filter
      (fun sql => !clears sql) = (group.map createStep).map Step.sql := by
    induction group with
    | nil => rfl
    | cons table rest ih =>
      rw [List.flatMap_cons, List.map_append, List.filter_append, ih]
      simp [cleared, created]
  have keys : ((linkSteps group).map Step.sql).filter (fun sql => !clears sql) =
      (linkSteps group).map Step.sql := by
    refine List.filter_eq_self.2 fun sql inside => ?_
    rw [Migration.linkSteps_eq, List.map_map] at inside
    obtain ⟨held, -, rfl⟩ := List.mem_map.1 inside
    simpa using linked held
  rw [freshSteps, List.map_append, List.filter_append, tables, keys, List.map_append]

/-- Without the drops, the steps for unrecorded tables are those that are listed. -/
theorem filter_freshAll (groups : List TableGroup) :
    ((groups.flatMap freshSteps).map Step.sql).filter (fun sql => !clears sql) =
      (listing groups).map Step.sql := by
  induction groups with
  | nil => rfl
  | cons group rest ih =>
    have whole : listing (group :: rest) =
        (group.map createStep ++ linkSteps group) ++ listing rest := List.flatMap_cons
    rw [List.flatMap_cons, List.map_append, List.filter_append, ih, filter_fresh, whole,
      ← List.map_append]

/-! ### The commands -/

section

variable (database : Database) (path : String)

theorem statements_sql (groups : List TableGroup) (store : Store) :
    ∃ listed, runCommand database path groups store .sql = .ok listed ∧
      listed.statements = (listing groups).map Step.sql := by
  refine ⟨_, rfl, ?_⟩
  rw [Outcome.statements, List.filterMap_map, ← List.filterMap_eq_map]
  exact List.filterMap_congr fun step _ => statement?_listed step

variable {groups : List TableGroup} {store : Store}
  (valid : ∀ table ∈ groups.flatten, table.validate = .ok ())
  (distinct : (groups.flatten.map Table.name).Nodup)
  (unrecorded : ∀ table ∈ groups.flatten, store.load.get? table.name = none)
include valid distinct unrecorded

theorem statements_dryRun :
    ∃ dry, runCommand database path groups store (.migrate true) = .ok dry ∧
      dry.statements = (groups.flatMap freshSteps).map Step.sql := by
  obtain ⟨report, ran, clean, statements⟩ := Migration.migrate_fresh [] valid distinct unrecorded
  have printed (sqls : List String) :
      (sqls.map fun sql => Output.text (sql ++ ";")).filterMap Output.statement? = sqls := by
    rw [List.filterMap_map]
    exact (List.filterMap_congr fun sql _ => Output.statement?_semicolon sql).trans List.filterMap_some
  simp only [runCommand, runMigration, if_true, ran]
  refine ⟨_, rfl, ?_⟩
  have single (entry : LogEntry) : [Output.log entry].filterMap Output.statement? = [] := rfl
  simp only [Outcome.statements, List.filterMap_append, filterMap_log, single, printed, clean,
    List.map_nil, List.nil_append, List.append_nil, statements]

end

/-- **The listing and the dry run print the same statements, but for the tables that are dropped.** For sound
tables of different names in any groups, with any keys within and across them, a dry run from an empty
snapshot prints what is listed, in the same order, and directly before each definition that its table is to
be dropped if it is there. -/
theorem sql_eq_dryRun (database : Database) (path : String) (groups : List TableGroup) (store : Store)
    (valid : ∀ table ∈ groups.flatten, table.validate = .ok ())
    (distinct : (groups.flatten.map Table.name).Nodup) (empty : store.load = .empty) :
    ∃ listed dry, runCommand database path groups store .sql = .ok listed ∧
      runCommand database path groups store (.migrate true) = .ok dry ∧
      listed.statements = dry.statements.filter (fun sql => !clears sql) ∧ Cleared dry.statements := by
  have unrecorded : ∀ table ∈ groups.flatten, store.load.get? table.name = none := by
    rw [empty]
    exact fun _ _ => rfl
  obtain ⟨listed, lists, shown⟩ := statements_sql database path groups store
  obtain ⟨dry, ran, printed⟩ := statements_dryRun database path valid distinct unrecorded
  refine ⟨listed, dry, lists, ran, ?_, ?_⟩
  · rw [shown, printed, filter_freshAll]
  · rw [printed]
    exact Cleared.freshAll groups

/-- A key within a group, one on a table of a later group, and one on a table of an earlier group. -/
theorem sql_eq_dryRun_music :
    let authors : Table := ⟨"authors", [{ name := "id", type := .int, primaryKey := true },
      { name := "best", type := .int, foreignKey := some { table := "songs", field := "id" } }]⟩
    let songs : Table := ⟨"songs", [{ name := "id", type := .int, primaryKey := true },
      { name := "album", type := .int, foreignKey := some { table := "albums", field := "id" } }]⟩
    let albums : Table := ⟨"albums", [{ name := "id", type := .int, primaryKey := true },
      { name := "by", type := .int, foreignKey := some { table := "authors", field := "id" } }]⟩
    let groups : List TableGroup := [[authors], [songs, albums]]
    (∀ table ∈ groups.flatten, table.validate = .ok ()) ∧ (groups.flatten.map Table.name).Nodup ∧
    (Store.file none).load = .empty ∧
    ∃ listed dry, runCommand .granting "tables.json" groups (.file none) .sql = .ok listed ∧
      runCommand .granting "tables.json" groups (.file none) (.migrate true) = .ok dry ∧
      listed.statements.map SqlCraft.Command.read? = [some (.createTable "authors"),
        some (.addConstraint ⟨"authors", "fk_songs_authors_id", "songs"⟩),
        some (.createTable "songs"), some (.createTable "albums"),
        some (.addConstraint ⟨"songs", "fk_albums_songs_id", "albums"⟩),
        some (.addConstraint ⟨"albums", "fk_authors_albums_id", "authors"⟩)] ∧
      listed.statements = dry.statements.filter (fun sql => !clears sql) ∧ Cleared dry.statements := by
  intro authors songs albums groups
  have valid : ∀ table ∈ groups.flatten, table.validate = .ok () := by decide +kernel
  have distinct : (groups.flatten.map Table.name).Nodup := by decide +kernel
  obtain ⟨listed, dry, lists, ran, same, cleared⟩ :=
    sql_eq_dryRun .granting "tables.json" groups (.file none) valid distinct rfl
  refine ⟨valid, distinct, rfl, listed, dry, lists, ran, ?_, same, cleared⟩
  obtain ⟨_, again, shown⟩ := statements_sql .granting "tables.json" groups (.file none)
  rw [← Except.ok.inj (again.symm.trans lists), shown]
  simp [groups, authors, songs, albums, listing, createStep, Migration.linkSteps_eq, Table.heldKeys,
    Table.foreignKeys, HeldKey.createStep, ForeignKey.constraintOn]

end SqlCraft.Cli
