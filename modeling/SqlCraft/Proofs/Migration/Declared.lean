/-
**What a run records of the declared tables.**

If a database refuses only what its rules refuse, no group leaves a changed table behind: each is created
and recorded. What the snapshot holds behind the run, and which tables are created, then depends on the
snapshot before and on the declarations alone. Under each declared name it is the table that is declared
last, and a name is created anew exactly if one of its declarations was changed.

* `LastOf` — the last table of its name in a list;
* `Snapshot.Holds` — a table is recorded, itself or one that equals it;
* `Declares` — a snapshot holds what is declared last, and else what another one holds;
* `completed`, `declares_completed`, `mem_creations_iff` — what the declarations lead to;
* `RunTrace.completes` — a run in which only the rules refuse leads there.
-/

import SqlCraft.Proofs.Migration.Passage
import SqlCraft.Proofs.Table.Equality

namespace SqlCraft

open Migration

/-! ### Equal tables -/

/-- Columns that are equal hold the same foreign keys under the same names. -/
theorem Column.key_eq_of_beq {first second : Column} (equal : first == second) :
    (first.foreignKey.map fun key => (first.name, key)) =
      second.foreignKey.map fun key => (second.name, key) := by
  have same := ((Column.beq_iff first second).1 equal).1
  simp only [Column.mk.injEq] at same
  obtain ⟨named, -, -, -, -, -, -, keyed, -⟩ := same
  rw [named, keyed]

/-- **Tables that are equal hold the same foreign keys.** -/
theorem Table.heldKeys_eq_of_beq {first second : Table} (equal : first == second) :
    first.heldKeys = second.heldKeys := by
  obtain ⟨named, columns⟩ := (Table.beq_iff first second).1 equal
  have keys {left right : List Column} (equal : left == right) :
      (left.filterMap fun column => column.foreignKey.map fun key => (column.name, key)) =
        right.filterMap fun column => column.foreignKey.map fun key => (column.name, key) := by
    induction left generalizing right with
    | nil =>
      cases right with
      | nil => rfl
      | cons column rest => cases equal
    | cons column rest ih =>
      cases right with
      | nil => cases equal
      | cons other others =>
        rw [List.cons_beq_cons, Bool.and_eq_true] at equal
        rw [List.filterMap_cons, List.filterMap_cons, Column.key_eq_of_beq equal.1, ih equal.2]
  rw [heldKeys, heldKeys, named, foreignKeys, foreignKeys, keys columns]

/-! ### Last declarations -/

/-- A table of a list, with no other of its name behind it. -/
def LastOf (tables : List Table) (table : Table) : Prop :=
  ∃ earlier later, tables = earlier ++ table :: later ∧ table.name ∉ later.map Table.name

theorem LastOf.mem {tables : List Table} {table : Table} (last : LastOf tables table) :
    table ∈ tables := by
  obtain ⟨earlier, later, rfl, -⟩ := last
  exact List.mem_append_right _ List.mem_cons_self

/-- Every name of a list has a last table. -/
theorem exists_lastOf {tables : List Table} {name : String} (inside : name ∈ tables.map Table.name) :
    ∃ table, LastOf tables table ∧ table.name = name := by
  induction tables with
  | nil => cases inside
  | cons first rest ih =>
    by_cases again : name ∈ rest.map Table.name
    · obtain ⟨table, ⟨earlier, later, rfl, fresh⟩, named⟩ := ih again
      exact ⟨table, ⟨first :: earlier, later, rfl, fresh⟩, named⟩
    · have here : name = first.name := (List.mem_cons.1 inside).resolve_right again
      exact ⟨first, ⟨[], rest, rfl, here ▸ again⟩, here.symm⟩

/-- The last table of two lists is that of the second one, or that of the first if the second has none. -/
theorem LastOf.append {first second : List Table} {table : Table}
    (last : LastOf (first ++ second) table) :
    LastOf second table ∨ (LastOf first table ∧ table.name ∉ second.map Table.name) := by
  obtain ⟨earlier, later, same, fresh⟩ := last
  rcases List.append_eq_append_iff.1 same with ⟨between, rfl, behind⟩ | ⟨between, rfl, behind⟩
  · exact .inl ⟨between, later, behind, fresh⟩
  · cases between with
    | nil => exact .inl ⟨[], later, behind.symm, fresh⟩
    | cons head rest =>
      obtain ⟨rfl, rfl⟩ : head = table ∧ later = rest ++ second := by
        simpa [eq_comm] using behind
      rw [List.map_append, List.mem_append, not_or] at fresh
      exact .inr ⟨⟨earlier, rest, rfl, fresh.1⟩, fresh.2⟩

/-! ### What is recorded of declared tables -/

/-- A table is recorded under its name: itself, or one that equals it. -/
def Snapshot.Holds (snapshot : Snapshot) (table : Table) : Prop :=
  ∃ held, snapshot.get? table.name = some held ∧ (held = table ∨ held == table)

theorem Snapshot.Holds.contains {snapshot : Snapshot} {table : Table} (holds : snapshot.Holds table) :
    snapshot.contains table.name := by
  obtain ⟨held, found, -⟩ := holds
  exact Option.isSome_of_eq_some found

theorem Snapshot.Holds.congr {first second : Snapshot} {table : Table} (holds : first.Holds table)
    (same : second.get? table.name = first.get? table.name) : second.Holds table := by
  obtain ⟨held, found, equal⟩ := holds
  exact ⟨held, same.trans found, equal⟩

/-- What is recorded for a table has the keys of the table. -/
theorem Snapshot.Holds.heldKeys {snapshot : Snapshot} {table : Table} (holds : snapshot.Holds table) :
    ∃ held, snapshot.get? table.name = some held ∧ held.heldKeys = table.heldKeys := by
  obtain ⟨held, found, rfl | equal⟩ := holds
  · exact ⟨held, found, rfl⟩
  · exact ⟨held, found, Table.heldKeys_eq_of_beq equal⟩

/-- Of each declared name the second snapshot holds the last table, and under all other names what the
first one holds. -/
structure Declares (before after : Snapshot) (declared : List Table) : Prop where
  last : ∀ table, LastOf declared table → after.Holds table
  others : ∀ name, name ∉ declared.map Table.name → after.get? name = before.get? name

namespace Declares

theorem refl (snapshot : Snapshot) : Declares snapshot snapshot [] where
  last _ last := absurd last.mem List.not_mem_nil
  others _ _ := rfl

theorem append {before middle after : Snapshot} {first second : List Table}
    (start : Declares before middle first) (finish : Declares middle after second) :
    Declares before after (first ++ second) where
  last table last := by
    rcases last.append with behind | ⟨earlier, fresh⟩
    · exact finish.last table behind
    · exact (start.last table earlier).congr (finish.others table.name fresh)
  others name other := by
    rw [List.map_append, List.mem_append, not_or] at other
    rw [finish.others name other.2, start.others name other.1]

variable {before after : Snapshot} {declared : List Table} (declares : Declares before after declared)
include declares

theorem contains {table : Table} (inside : table ∈ declared) : after.contains table.name := by
  obtain ⟨last, isLast, named⟩ := exists_lastOf (List.mem_map_of_mem inside)
  exact named ▸ (declares.last last isLast).contains

end Declares

namespace Migration

/-- Behind a group whose changed tables are recorded, all its tables are held. -/
theorem declares_record (snapshot : Snapshot) {group : TableGroup}
    (distinct : (group.map Table.name).Nodup) :
    Declares snapshot (record snapshot (changedTables snapshot group)) group where
  last table last := by
    have names := changedTables_nodup snapshot distinct
    by_cases changed : snapshot.isChanged table
    · have created : table ∈ changedTables snapshot group := List.mem_filter.2 ⟨last.mem, changed⟩
      exact ⟨table, get?_record_of_mem snapshot names created, .inl rfl⟩
    · obtain ⟨held, found, equal⟩ := Snapshot.isChanged_eq_false_iff.1 (Bool.eq_false_iff.2 changed)
      have other : table.name ∉ (changedTables snapshot group).map Table.name := by
        intro named
        obtain ⟨other, created, same⟩ := List.mem_map.1 named
        obtain ⟨inside, differs⟩ := List.mem_filter.1 created
        exact changed (List.inj_on_of_nodup_map distinct inside last.mem same ▸ differs)
      exact ⟨held, (get?_record_of_not_mem snapshot other).trans found, .inr equal⟩
  others name other := get?_record_of_not_mem snapshot fun inside =>
    other (List.map_subset Table.name (changedTables_subset snapshot group) inside)

/-! ### Complete runs -/

/-- The snapshot behind groups of which every changed table is recorded. -/
def completed (snapshot : Snapshot) : List TableGroup → Snapshot
  | [] => snapshot
  | group :: rest => completed (record snapshot (changedTables snapshot group)) rest

/-- The tables that are recorded on the way there. -/
def creations (snapshot : Snapshot) : List TableGroup → List Table
  | [] => []
  | group :: rest => changedTables snapshot group ++
      creations (record snapshot (changedTables snapshot group)) rest

theorem declares_completed {groups : List TableGroup}
    (distinct : ∀ group ∈ groups, (group.map Table.name).Nodup) (snapshot : Snapshot) :
    Declares snapshot (completed snapshot groups) groups.flatten := by
  induction groups generalizing snapshot with
  | nil => exact .refl snapshot
  | cons group rest ih =>
    have here := declares_record snapshot (distinct group List.mem_cons_self)
    exact here.append (ih (fun other inside => distinct other (List.mem_cons_of_mem _ inside)) _)

/-- **A name is created anew exactly if a declaration of it is changed.** -/
theorem mem_creations_iff (snapshot : Snapshot) (groups : List TableGroup) (name : String) :
    name ∈ (creations snapshot groups).map Table.name ↔ name ∈ diff snapshot groups := by
  induction groups generalizing snapshot with
  | nil => rfl
  | cons group rest ih =>
    have split : diff snapshot (group :: rest) =
        (changedTables snapshot group).map Table.name ++ diff snapshot rest := by
      rw [diff, List.flatten_cons, List.filter_append, List.map_append]
      rfl
    rw [creations, List.map_append, List.mem_append, ih, split, List.mem_append]
    by_cases here : name ∈ (changedTables snapshot group).map Table.name
    · exact iff_of_true (.inl here) (.inl here)
    · -- The group does not record the name, so the tables behind it are compared as before.
      refine or_congr_right ?_
      simp only [diff, List.mem_map, List.mem_filter]
      refine exists_congr fun table => and_congr_left fun named => and_congr_right fun _ => ?_
      rw [Snapshot.isChanged_congr (get?_record_of_not_mem snapshot (named ▸ here))]

/-- **A run in which only the rules refuse creates and records every changed table.** -/
theorem RunTrace.completes {plain : Prop} (only : plain) {snapshot final : Snapshot}
    {groups : List TableGroup} {events : List MigrationEvent} {before after : Catalog}
    (trace : RunTrace snapshot groups events final) (follows : Follows plain before events after)
    (sound : snapshot.Sound) (within : before.Within snapshot)
    (distinct : ∀ group ∈ groups, (group.map Table.name).Nodup)
    (named : ∀ group ∈ groups, ∀ table ∈ group, table.constraintNames.Nodup) :
    final = completed snapshot groups ∧
      MigrationReport.created ⟨events⟩ = (creations snapshot groups).map Table.name := by
  induction trace generalizing before with
  | done => exact ⟨rfl, rfl⟩
  | @group snapshot final group groups first later created here rest ih =>
    obtain ⟨middle, followsFirst, followsLater⟩ := follows.append_inv
    have passed := here.passed sound followsFirst
    have apart := distinct group List.mem_cons_self
    have all := passed.created_eq only sound apart within
    have soundly : (record snapshot created).Sound := record_sound sound fun table made =>
      named group List.mem_cons_self table (changedTables_subset snapshot group (all ▸ made))
    obtain ⟨same, made⟩ := ih followsLater soundly (passed.within sound apart within)
      (fun other inside => distinct other (List.mem_cons_of_mem _ inside))
      (fun other inside => named other (List.mem_cons_of_mem _ inside))
    rw [created_append, here.views.1, made, same, all, completed, creations, List.map_append]
    exact ⟨rfl, rfl⟩

end Migration

end SqlCraft
