/-
**The statements of a group, phase by phase.**

A group is told by what it changes in the schema, and the statements that it makes are read back as
these changes: a key is dropped and added under one name, with the columns and the actions that it is
recorded with. Which statements are refused decides only which tables get their keys and which keys of
other tables are added again.

* `SchemaChange`, `SchemaChange.Spelled` — a change, and the texts that ask for it;
* `HeldKey.read?` — an added key in all its parts;
* `groupChanges` — the changes of a group, phase by phase;
* `runGroup_statements` — the statements of a run over a group spell these changes, and nothing else.
-/

import SqlCraft.Proofs.Migration.Agreement
import SqlCraft.Proofs.Migration.Grants

namespace SqlCraft

open Sql (quote)

namespace Migration

/-! ### Reading added keys -/

namespace HeldKey

/-- The key with the name of its constraint written out. -/
def named (held : HeldKey) : HeldKey :=
  { held with key := { held.key with constraintName := some (held.key.constraintOn held.holder) } }

/-- Reads words and the action behind them, if they are there; the action and what is left. -/
def readAction? (words : String) (text : List Char) : Option ReferentialAction × List Char :=
  let found := ReferentialAction.all.findSome? fun action =>
    (text.dropPrefix? (words.toList ++ action.keywords.toList)).map fun rest => (some action, rest)
  found.getD (none, text)

/-- Reads a whole statement that adds a key. -/
def read? (sql : String) : Option HeldKey := do
  let (holder, text) ← Command.readNamed? "ALTER TABLE " sql.toList
  let (name, text) ← Command.readNamed? " ADD CONSTRAINT " text
  let (column, text) ← Command.readNamed? " FOREIGN KEY (" text
  let (table, text) ← Command.readNamed? ") REFERENCES " text
  let (field, text) ← Command.readNamed? " (" text
  let text ← text.dropPrefix? ")".toList
  let (onDelete, text) := readAction? " ON DELETE " text
  let (onUpdate, text) := readAction? " ON UPDATE " text
  if text.isEmpty then some ⟨holder, column, ⟨table, field, some name, onDelete, onUpdate⟩⟩ else none

/-- An action as it stands behind a key. -/
def actionText (words : String) (action : Option ReferentialAction) : List Char :=
  match action with
  | some action => words.toList ++ action.keywords.toList
  | none => []

/-- The first action is read back, whether the second is there or not. -/
theorem readAction?_onDelete (onDelete onUpdate : Option ReferentialAction) :
    readAction? " ON DELETE "
        (actionText " ON DELETE " onDelete ++ actionText " ON UPDATE " onUpdate) =
      (onDelete, actionText " ON UPDATE " onUpdate) := by
  cases onDelete with
  | none =>
    cases onUpdate with
    | none => rfl
    | some action => rfl
  | some action =>
    cases action <;>
      simp [readAction?, actionText, ReferentialAction.all, ReferentialAction.keywords, List.dropPrefix?]

theorem readAction?_onUpdate (onUpdate : Option ReferentialAction) :
    readAction? " ON UPDATE " (actionText " ON UPDATE " onUpdate) = (onUpdate, []) := by
  cases onUpdate with
  | none => rfl
  | some action => cases action <;> rfl

/-- **An added key is read back with all its parts.** -/
theorem read?_createStep (held : HeldKey) : read? held.createStep.sql = some held.named := by
  obtain ⟨holder, column, key⟩ := held
  have text : (Table.addForeignKeySql holder column key).toList =
      "ALTER TABLE ".toList ++ ((quote holder).toList ++
        (" ADD CONSTRAINT ".toList ++ ((quote (key.constraintOn holder)).toList ++
          (" FOREIGN KEY (".toList ++ ((quote column).toList ++
            (") REFERENCES ".toList ++ ((quote key.table).toList ++
              (" (".toList ++ ((quote key.field).toList ++
                (")".toList ++ (actionText " ON DELETE " key.onDelete ++
                  actionText " ON UPDATE " key.onUpdate))))))))))) := by
    unfold Table.addForeignKeySql actionText
    cases key.onDelete <;> cases key.onUpdate <;>
      simp only [String.toList_append, List.append_assoc, List.append_nil, List.nil_append,
        String.toList_empty]
  have closed (behind : List Char) : (")".toList ++ behind).dropPrefix? ")".toList = some behind :=
    List.dropPrefix?_append_of_beq _ BEq.rfl
  rw [read?, createStep, text, Command.readNamed?_quote _ _ (by simp)]
  simp only [Option.bind_eq_bind, Option.bind_some]
  rw [Command.readNamed?_quote _ _ (by simp), Option.bind_some,
    Command.readNamed?_quote _ _ (by simp), Option.bind_some,
    Command.readNamed?_quote _ _ (by simp), Option.bind_some,
    Command.readNamed?_quote _ _ (by simp), Option.bind_some, closed, Option.bind_some,
    readAction?_onDelete]
  dsimp only
  rw [readAction?_onUpdate]
  rfl

end HeldKey

/-! ### Changes and their texts -/

/-- What a statement of a migration changes. -/
inductive SchemaChange where
  | dropKey (held : HeldKey)
  /-- Drops the table of a name; one that is not recorded need not be there. -/
  | dropTable (name : String) (recorded : Bool)
  | createTable (table : Table)
  | addKey (held : HeldKey)

/-- A text asks for a change. -/
def SchemaChange.Spelled : SchemaChange → String → Prop
  | dropKey held, sql =>
    Command.read? sql = some (.dropConstraint held.holder (held.key.constraintOn held.holder))
  | dropTable name recorded, sql => Command.read? sql = some (.dropTable name (!recorded))
  | createTable table, sql => sql = table.createSql
  | addKey held, sql => HeldKey.read? sql = some held.named

/-- The keys that recorded tables hold on some recorded tables, other than those tables themselves. -/
def outsideKeys (snapshot : Snapshot) (tables : List Table) : List HeldKey :=
  snapshot.entries.flatMap fun entry =>
    if entry.1 ∈ tables.map Table.name then []
    else entry.2.heldKeys.filter fun held =>
      held.key.table ∈ tables.map Table.name ∧ snapshot.contains held.key.table

/-- The changes for the sake of changed tables, of which some are created, and of which some keys of
other tables were dropped. -/
def groupChanges (snapshot : Snapshot) (changed created : List Table) (detached : List HeldKey) :
    List SchemaChange :=
  (ownKeys snapshot changed).map .dropKey ++
    (outsideKeys snapshot changed).map .dropKey ++
    changed.flatMap (fun table =>
      [.dropTable table.name (snapshot.contains table.name), .createTable table]) ++
    (created.flatMap Table.heldKeys).map .addKey ++
    detached.map .addKey

/-! ### The statements of a group -/

section Keyed

variable {snapshot : Snapshot}
  (keyed : ∀ name table, snapshot.get? name = some table → table.name = name)
include keyed

/-- The keys that a run detaches are those that tables outside of the changed ones hold on them. -/
theorem inboundKeys_eq (changed : List Table) :
    inboundKeys snapshot changed = outsideKeys snapshot changed := by
  have own : ∀ entry ∈ snapshot.entries, entry.2.name = entry.1 := fun entry inside =>
    keyed entry.1 entry.2 ((SortedEntries.lookup_eq_some_iff snapshot.ascending).2 inside)
  rw [inboundKeys, outsideKeys, Snapshot.tables]
  generalize snapshot.entries = entries at own
  induction entries with
  | nil => rfl
  | cons entry rest ih =>
    obtain ⟨first, others⟩ := List.forall_mem_cons.1 own
    rw [List.map_cons, List.filter_cons, List.flatMap_cons, ← ih others, first]
    by_cases inside : entry.1 ∈ changed.map Table.name
    · simp [inside]
    · rw [if_pos (by simpa using inside), if_neg inside, List.flatMap_cons]
      congr 1
      rw [Table.heldKeys, List.filter_map]
      congr 1
      refine List.filter_congr fun held _ => ?_
      simp

/-- Dropping a changed table is spelled by the step that drops it. -/
theorem spelled_dropStep (table : Table) :
    (SchemaChange.dropTable table.name (snapshot.contains table.name)).Spelled
      (dropStep snapshot table).sql := by
  rw [SchemaChange.Spelled, dropStep, Snapshot.contains]
  cases found : snapshot.get? table.name with
  | none => exact Command.read?_dropIfExistsSql table
  | some recorded => exact keyed table.name recorded found ▸ Command.read?_dropSql recorded

/-- The steps of a group spell its changes, one by one. -/
theorem spelled_groupSteps (changed created : List Table) (detached : List HeldKey) :
    List.Forall₂ SchemaChange.Spelled (groupChanges snapshot changed created detached)
      ((groupSteps snapshot changed created detached).map Step.sql) := by
  have each (change : HeldKey → SchemaChange) (step : HeldKey → Step)
      (spelled : ∀ held, (change held).Spelled (step held).sql) (keys : List HeldKey) :
      List.Forall₂ SchemaChange.Spelled (keys.map change) ((keys.map step).map Step.sql) := by
    rw [List.map_map, List.forall₂_map_left_iff, List.forall₂_map_right_iff, List.forall₂_same]
    exact fun held _ => spelled held
  have dropping := each .dropKey HeldKey.dropStep HeldKey.read_dropStep
  have adding := each .addKey HeldKey.createStep HeldKey.read?_createStep
  have rebuilding : List.Forall₂ SchemaChange.Spelled
      (changed.flatMap fun table =>
        [.dropTable table.name (snapshot.contains table.name), .createTable table])
      ((rebuildSteps snapshot changed).map Step.sql) := by
    induction changed with
    | nil => exact .nil
    | cons table rest ih => exact .cons (spelled_dropStep keyed table) (.cons rfl ih)
  rw [groupChanges, groupSteps, ownKeySteps_eq keyed, inboundKeys_eq keyed, linkSteps_eq]
  simp only [List.map_append, List.append_assoc]
  refine List.rel_append (dropping _) (List.rel_append (dropping _) (List.rel_append rebuilding ?_))
  exact List.rel_append (adding _) (adding _)

end Keyed

/-- **The statements of a group, phase by phase.** Behind a snapshot keyed by table name, a run over a
group makes the statements of its changes and nothing else, whatever is refused. The tables that get
their keys are those whose creation was granted, and the keys of other tables that are added again are
those whose removal was granted. -/
theorem runGroup_statements (database : Database) (group : TableGroup) (snapshot : Snapshot)
    (history : History) (keyed : ∀ name table, snapshot.get? name = some table → table.name = name) :
    ∃ sqls created detached,
      let changed := changedTables snapshot group
      let own := ownKeys snapshot changed
      let outside := outsideKeys snapshot changed
      let calls := sqls.map fun sql => Call.execute ⟨sql, []⟩
      (runGroup (some database) group snapshot history).2 = history ++ calls ∧
      List.Forall₂ SchemaChange.Spelled (groupChanges snapshot changed created detached) sqls ∧
      created = grantedItems (fun index => database.grantsAt history calls
        (own.length + outside.length + 2 * index + 1)) changed ∧
      detached = grantedItems (fun index => database.grantsAt history calls
        (own.length + index)) outside ∧
      (changed = [] → sqls = []) := by
  obtain ⟨created, detached, calls, made, ran, detaches, creates, idle⟩ :=
    rebuildGroup_calls database snapshot (changedTables snapshot group) history
  rw [← runGroup_calls] at ran
  have lengths : (ownKeySteps snapshot (changedTables snapshot group)).length =
      (ownKeys snapshot (changedTables snapshot group)).length := by
    rw [ownKeySteps_eq keyed, List.length_map]
  rw [lengths, inboundKeys_eq keyed] at detaches creates
  let sqls := (groupSteps snapshot (changedTables snapshot group) created detached).map Step.sql
  have texts : calls = sqls.map fun sql => Call.execute ⟨sql, []⟩ := by
    rw [made, List.map_map]
    rfl
  rw [texts] at ran detaches creates idle
  refine ⟨sqls, created, detached, ran, spelled_groupSteps keyed _ _ _, ?_, detaches, fun none => ?_⟩
  · simpa only [Nat.add_assoc] using creates
  · exact List.map_eq_nil_iff.1 (idle none)

theorem runGroup_statements_music :
    (∀ name table, musicSnapshot.get? name = some table → table.name = name) ∧
    ∃ sqls created detached,
      (runGroup (some (music.database .none)) [namedAuthors] musicSnapshot []).2 =
        sqls.map (fun sql => Call.execute ⟨sql, []⟩) ∧
      List.Forall₂ SchemaChange.Spelled (groupChanges musicSnapshot
        (changedTables musicSnapshot [namedAuthors]) created detached) sqls ∧
      created.map Table.name = ["authors"] ∧ detached.map HeldKey.holder = ["songs"] := by
  have keyed := musicSnapshot_sound.keyed
  obtain ⟨sqls, created, detached, ran, spelled, creates, detaches, -⟩ :=
    runGroup_statements (music.database .none) [namedAuthors] musicSnapshot [] keyed
  have calls := ran.trans (List.nil_append _)
  refine ⟨keyed, sqls, created, detached, calls, spelled, ?_, ?_⟩
  · rw [creates, ← calls]
    decide +kernel
  · rw [detaches, ← calls]
    decide +kernel

end Migration

end SqlCraft
