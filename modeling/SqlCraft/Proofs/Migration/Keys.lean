/-
**The foreign keys of recorded and of declared tables.**

A snapshot is sound if every table is recorded under its own name and no two constraints of a table
have one name. Then a constraint is told apart by its holder and its name, and the keys that a run
drops and adds are keys of tables:

* `Snapshot.Sound`, `Snapshot.Records` — sound snapshots, and the constraints they record;
* `ownKeySteps_eq`, `mem_inboundKeys_iff`, `linkSteps_eq` — the keys behind the steps of a group;
* `keys_nodup` — the keys of tables of different names are different.
-/

import Mathlib.Data.List.Nodup
import SqlCraft.Proofs.Migration.Catalog
import SqlCraft.Proofs.Migration.Recorded

namespace SqlCraft

/-- The foreign keys of a table with their holder. -/
def Table.heldKeys (table : Table) : List Migration.HeldKey :=
  table.foreignKeys.map fun (column, key) => ⟨table.name, column, key⟩

/-- The names of a table's foreign-key constraints. -/
def Table.constraintNames (table : Table) : List String :=
  table.foreignKeys.map fun entry => entry.2.constraintOn table.name

/-- The constraint that a key is to the database. -/
def Migration.HeldKey.constraint (held : HeldKey) : Constraint :=
  ⟨held.holder, held.key.constraintOn held.holder, held.key.table⟩

/-- Whether a constraint is a key of a recorded table. -/
def Snapshot.Records (snapshot : Snapshot) (constraint : Constraint) : Prop :=
  ∃ table, snapshot.get? constraint.holder = some table ∧
    ∃ held ∈ table.heldKeys, held.constraint = constraint

/-- Every table is recorded under its own name, and no two of its constraints have one name. -/
structure Snapshot.Sound (snapshot : Snapshot) : Prop where
  keyed : ∀ name table, snapshot.get? name = some table → table.name = name
  named : ∀ name table, snapshot.get? name = some table → table.constraintNames.Nodup

namespace Migration

theorem holder_of_mem_heldKeys {table : Table} {held : HeldKey} (inside : held ∈ table.heldKeys) :
    held.holder = table.name := by
  obtain ⟨entry, -, rfl⟩ := List.mem_map.1 inside
  rfl

/-- Keys of a table whose names differ have one name only if they are the same. -/
theorem heldKeys_inj {table : Table} {first second : HeldKey} (distinct : table.constraintNames.Nodup)
    (left : first ∈ table.heldKeys) (right : second ∈ table.heldKeys)
    (same : first.constraint.key = second.constraint.key) : first = second := by
  obtain ⟨one, oneInside, rfl⟩ := List.mem_map.1 left
  obtain ⟨other, otherInside, rfl⟩ := List.mem_map.1 right
  have named : one.2.constraintOn table.name = other.2.constraintOn table.name :=
    (Prod.mk.inj same).2
  rw [List.inj_on_of_nodup_map distinct oneInside otherInside named]

theorem HeldKey.read_dropStep (held : HeldKey) :
    Command.read? held.dropStep.sql =
      some (.dropConstraint held.constraint.holder held.constraint.name) :=
  Command.read?_dropForeignKeySql held.holder held.key

theorem HeldKey.read_createStep (held : HeldKey) :
    Command.read? held.createStep.sql = some (.addConstraint held.constraint) :=
  Command.read?_addForeignKeySql held.holder held.column held.key

/-! ### Keys of several tables -/

/-- The keys of a table are told apart by their names. -/
theorem map_key_heldKeys (table : Table) : (table.heldKeys.map fun held => held.constraint.key) =
    table.constraintNames.map fun name => (table.name, name) := by
  simp [Table.heldKeys, Table.constraintNames, HeldKey.constraint, Constraint.key]

/-- The keys of tables of different names are different. -/
theorem keys_nodup {tables : List Table} (distinct : (tables.map Table.name).Nodup)
    (named : ∀ table ∈ tables, table.constraintNames.Nodup) :
    ((tables.flatMap Table.heldKeys).map fun held => held.constraint.key).Nodup := by
  induction tables with
  | nil => exact List.nodup_nil
  | cons table rest ih =>
    rw [List.map_cons, List.nodup_cons] at distinct
    have own : (table.heldKeys.map fun held => held.constraint.key).Nodup := by
      rw [map_key_heldKeys]
      exact (named table List.mem_cons_self).map fun first second same => (Prod.mk.inj same).2
    have others := ih distinct.2 fun other inside => named other (List.mem_cons_of_mem _ inside)
    rw [List.flatMap_cons, List.map_append, List.nodup_append]
    refine ⟨own, others, fun first left second right same => ?_⟩
    obtain ⟨held, inside, rfl⟩ := List.mem_map.1 left
    obtain ⟨other, behind, rfl⟩ := List.mem_map.1 right
    obtain ⟨owner, among, within⟩ := List.mem_flatMap.1 behind
    have holders : held.holder = other.holder := (Prod.mk.inj same).1
    rw [holder_of_mem_heldKeys inside, holder_of_mem_heldKeys within] at holders
    exact distinct.1 (holders ▸ List.mem_map_of_mem among)

theorem linkSteps_eq (tables : List Table) :
    linkSteps tables = (tables.flatMap Table.heldKeys).map HeldKey.createStep := by
  rw [linkSteps, List.map_flatMap]
  refine List.flatMap_congr fun table _ => ?_
  simp [Table.createForeignKeySqls, Table.heldKeys, HeldKey.createStep]

/-! ### Sound snapshots -/

/-- The recorded keys of changed tables. -/
def ownKeys (snapshot : Snapshot) (changed : List Table) : List HeldKey :=
  (changed.filterMap fun table => snapshot.get? table.name).flatMap Table.heldKeys

theorem mem_ownKeys {snapshot : Snapshot} {changed : List Table} {held : HeldKey} :
    held ∈ ownKeys snapshot changed ↔ ∃ table ∈ changed, ∃ recorded,
      snapshot.get? table.name = some recorded ∧ held ∈ recorded.heldKeys := by
  simp only [ownKeys, List.mem_flatMap, List.mem_filterMap]
  constructor
  · rintro ⟨recorded, ⟨table, inside, found⟩, within⟩
    exact ⟨table, inside, recorded, found, within⟩
  · rintro ⟨table, inside, recorded, found, within⟩
    exact ⟨recorded, ⟨table, inside, found⟩, within⟩

/-- The steps that drop the recorded keys of changed tables are those of the keys. -/
theorem ownKeySteps_eq {snapshot : Snapshot}
    (keyed : ∀ name table, snapshot.get? name = some table → table.name = name)
    (changed : List Table) :
    ownKeySteps snapshot changed = (ownKeys snapshot changed).map HeldKey.dropStep := by
  induction changed with
  | nil => rfl
  | cons table rest ih =>
    rw [ownKeySteps, List.flatMap_cons, ← ownKeySteps, ih, ownKeys, ownKeys, List.filterMap_cons]
    cases found : snapshot.get? table.name with
    | none => rfl
    | some recorded =>
      have same := keyed table.name recorded found
      rw [List.flatMap_cons, List.map_append]
      congr 1
      simp [Table.dropForeignKeySqls, Table.heldKeys, HeldKey.dropStep, same]

/-- Inbound keys are among those of the recorded tables that are not changed. -/
theorem inboundKeys_sublist (snapshot : Snapshot) (changed : List Table) :
    (inboundKeys snapshot changed).Sublist ((snapshot.tables.filter fun table =>
      !(changed.map Table.name).contains table.name).flatMap Table.heldKeys) := by
  rw [inboundKeys]
  induction snapshot.tables.filter fun table => !(changed.map Table.name).contains table.name with
  | nil => exact .slnil
  | cons table rest ih =>
    rw [List.flatMap_cons, List.flatMap_cons]
    exact (List.filter_sublist.map _).append ih

section Sound

variable {snapshot : Snapshot} (sound : snapshot.Sound)
include sound

theorem mem_tables_iff_get? {table : Table} :
    table ∈ snapshot.tables ↔ snapshot.get? table.name = some table := by
  rw [Snapshot.mem_tables_iff]
  constructor
  · rintro ⟨name, found⟩
    rw [sound.keyed name table found]
    exact found
  · exact fun found => ⟨table.name, found⟩

/-- The keys of a recorded table are recorded constraints. -/
theorem records_of_mem {name : String} {table : Table} {held : HeldKey}
    (found : snapshot.get? name = some table) (inside : held ∈ table.heldKeys) :
    snapshot.Records held.constraint := by
  refine ⟨table, ?_, held, inside, rfl⟩
  show snapshot.get? held.holder = some table
  rw [holder_of_mem_heldKeys inside, sound.keyed name table found]
  exact found

/-- Inbound keys are those that recorded tables but the changed ones hold on changed tables that are
recorded. -/
theorem mem_inboundKeys_iff {changed : List Table} {held : HeldKey} :
    held ∈ inboundKeys snapshot changed ↔ ∃ table, snapshot.get? table.name = some table ∧
      table.name ∉ changed.map Table.name ∧ held ∈ table.heldKeys ∧
      held.key.table ∈ changed.map Table.name ∧ snapshot.contains held.key.table := by
  rw [inboundKeys, List.mem_flatMap]
  constructor
  · rintro ⟨table, among, inside⟩
    obtain ⟨recorded, outside⟩ := List.mem_filter.1 among
    obtain ⟨⟨column, key⟩, chosen, rfl⟩ := List.mem_map.1 inside
    obtain ⟨within, targeted⟩ := List.mem_filter.1 chosen
    rw [Bool.and_eq_true, List.contains_iff_mem] at targeted
    refine ⟨table, (mem_tables_iff_get? sound).1 recorded, by simpa using outside, ?_, targeted⟩
    exact List.mem_map_of_mem (f := fun entry => HeldKey.mk table.name entry.1 entry.2) within
  · rintro ⟨table, found, outside, inside, target, recorded⟩
    obtain ⟨⟨column, key⟩, within, rfl⟩ := List.mem_map.1 inside
    refine ⟨table, List.mem_filter.2 ⟨(mem_tables_iff_get? sound).2 found, by simpa using outside⟩,
      List.mem_map.2 ⟨(column, key), List.mem_filter.2 ⟨within, ?_⟩, rfl⟩⟩
    rw [Bool.and_eq_true, List.contains_iff_mem]
    exact ⟨target, recorded⟩

theorem names_nodup : (snapshot.tables.map Table.name).Nodup := by
  have keys : snapshot.tables.map Table.name = snapshot.entries.map Prod.fst := by
    rw [Snapshot.tables, List.map_map]
    refine List.map_congr_left fun entry inside => ?_
    exact sound.keyed entry.1 entry.2
      ((SortedEntries.lookup_eq_some_iff snapshot.ascending).2 inside)
  rw [keys, List.Nodup, List.pairwise_map]
  refine snapshot.ascending.imp fun {first second} less same => ?_
  rw [same] at less
  exact String.lt_irrefl second.1 less

/-- The keys of tables that are changed and the inbound keys are different. -/
theorem beside_nodup {changed tables : List Table} (distinct : (tables.map Table.name).Nodup)
    (named : ∀ table ∈ tables, table.constraintNames.Nodup)
    (among : tables.map Table.name ⊆ changed.map Table.name) :
    ((tables.flatMap Table.heldKeys ++ inboundKeys snapshot changed).map
      fun held => held.constraint.key).Nodup := by
  let others := snapshot.tables.filter fun table => !(changed.map Table.name).contains table.name
  have all : ((tables ++ others).map Table.name).Nodup := by
    rw [List.map_append, List.nodup_append]
    refine ⟨distinct, (names_nodup sound).sublist (List.filter_sublist.map _), ?_⟩
    intro first inside second beside same
    obtain ⟨other, chosen, rfl⟩ := List.mem_map.1 beside
    have outside : other.name ∉ changed.map Table.name := by
      simpa using (List.mem_filter.1 chosen).2
    exact outside (same ▸ among inside)
  have sound' : ∀ table ∈ tables ++ others, table.constraintNames.Nodup := by
    intro table inside
    rcases List.mem_append.1 inside with own | other
    · exact named table own
    · exact sound.named table.name table
        ((mem_tables_iff_get? sound).1 (List.mem_filter.1 other).1)
  have keys := keys_nodup all sound'
  rw [List.flatMap_append] at keys
  exact keys.sublist (((List.Sublist.refl _).append (inboundKeys_sublist snapshot changed)).map _)

/-- The keys that are dropped for a group are different. -/
theorem dropped_nodup {changed : List Table} (distinct : (changed.map Table.name).Nodup) :
    ((ownKeys snapshot changed ++ inboundKeys snapshot changed).map
      fun held => held.constraint.key).Nodup := by
  have names : ((changed.filterMap fun table => snapshot.get? table.name).map Table.name).Sublist
      (changed.map Table.name) := by
    clear distinct
    induction changed with
    | nil => exact .slnil
    | cons table rest ih =>
      rw [List.filterMap_cons]
      cases found : snapshot.get? table.name with
      | none => exact ih.cons _
      | some recorded =>
        rw [List.map_cons, List.map_cons, sound.keyed table.name recorded found]
        exact ih.cons_cons _
  refine beside_nodup sound (distinct.sublist names) (fun recorded inside => ?_) names.subset
  obtain ⟨table, -, found⟩ := List.mem_filterMap.1 inside
  exact sound.named table.name recorded found

end Sound

end Migration

end SqlCraft
