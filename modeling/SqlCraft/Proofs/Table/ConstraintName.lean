/-
**The default names of foreign keys.**

A foreign key without a name of its own is named after the table it refers to, the table that holds it,
and the column it refers to, with low lines between them. The column that holds the key has no part in
the name. So two keys are named alike if they refer to one column, and also where a low line of one name
falls together with one inside the parts of the other; otherwise they are told apart.

* `ForeignKey.Overlaps`, `ForeignKey.Confused` — keys that one table names alike;
* `constraintOn_eq_iff` — they are the only ones;
* `Catalog.Grants` — statements that a database grants one after the other;
* `foreignKeys_named` — the default names of a table's keys, and what all names mean to a database.
-/

import Mathlib.Data.Finset.Lattice.Lemmas
import SqlCraft.Proofs.Migration.Keys

namespace SqlCraft

/-! ### Names -/

/-- If two texts agree, the first part of one is the first part of the other and more. -/
theorem exists_of_append_eq {first second third fourth : String}
    (same : first ++ second = third ++ fourth) :
    (∃ more, third = first ++ more ∧ second = more ++ fourth) ∨
      ∃ more, first = third ++ more ∧ fourth = more ++ second := by
  have lift {whole left : String} {right : List Char} (split : whole.toList = left.toList ++ right) :
      whole = left ++ String.ofList right := by
    rw [← String.toList_inj, String.toList_append, String.toList_ofList, split]
  have drop {whole right : String} {left : List Char} (split : whole.toList = left ++ right.toList) :
      whole = String.ofList left ++ right := by
    rw [← String.toList_inj, String.toList_append, String.toList_ofList, split]
  rw [← String.toList_inj, String.toList_append, String.toList_append,
    List.append_eq_append_iff] at same
  rcases same with ⟨more, longer, behind⟩ | ⟨more, longer, behind⟩
  · exact .inl ⟨_, lift longer, drop behind⟩
  · exact .inr ⟨_, lift longer, drop behind⟩

namespace ForeignKey

variable {holder : String} {first second : ForeignKey}

/-- What a default name has behind the table that the key refers to. -/
def nameEnd (holder : String) (key : ForeignKey) : String := "_" ++ holder ++ "_" ++ key.field

/-- The name of the second key's table goes on where that of the first ends, with what the end of the first
key's name has more than the end of the second's. -/
def Overlaps (holder : String) (first second : ForeignKey) : Prop :=
  ∃ more : String, more ≠ "" ∧ second.table = first.table ++ more ∧
    first.nameEnd holder = more ++ second.nameEnd holder

/-- Two keys that a table names alike. -/
def Confused (holder : String) (first second : ForeignKey) : Prop :=
  (first.table = second.table ∧ first.field = second.field) ∨
    first.Overlaps holder second ∨ second.Overlaps holder first

theorem constraintOn_of_unnamed {key : ForeignKey} (unnamed : key.constraintName = none) :
    key.constraintOn holder = "fk_" ++ (key.table ++ key.nameEnd holder) := by
  rw [constraintOn, unnamed, Option.getD_none, nameEnd]
  simp only [String.append_assoc]

theorem nameEnd_inj (same : first.nameEnd holder = second.nameEnd holder) :
    first.field = second.field :=
  (String.append_right_inj _).1 same

/-- Keys whose names agree part by part have one target, or overlap where the parts are cut differently. -/
theorem target_or_overlaps {more : String} (longer : second.table = first.table ++ more)
    (behind : first.nameEnd holder = more ++ second.nameEnd holder) :
    (first.table = second.table ∧ first.field = second.field) ∨ first.Overlaps holder second := by
  by_cases empty : more = ""
  · rw [empty, String.append_empty] at longer
    rw [empty, String.empty_append] at behind
    exact .inl ⟨longer.symm, nameEnd_inj behind⟩
  · exact .inr ⟨more, empty, longer, behind⟩

/-- **Two keys without names are named alike if they are confused, and only then.** -/
theorem constraintOn_eq_iff (firstUnnamed : first.constraintName = none)
    (secondUnnamed : second.constraintName = none) :
    first.constraintOn holder = second.constraintOn holder ↔ first.Confused holder second := by
  rw [constraintOn_of_unnamed firstUnnamed, constraintOn_of_unnamed secondUnnamed,
    String.append_right_inj]
  constructor
  · intro same
    rcases exists_of_append_eq same with ⟨more, longer, behind⟩ | ⟨more, longer, behind⟩
    · rcases target_or_overlaps longer behind with target | overlaps
      · exact .inl target
      · exact .inr (.inl overlaps)
    · rcases target_or_overlaps longer behind with ⟨tables, fields⟩ | overlaps
      · exact .inl ⟨tables.symm, fields.symm⟩
      · exact .inr (.inr overlaps)
  · rintro (⟨tables, fields⟩ | ⟨more, -, longer, behind⟩ | ⟨more, -, longer, behind⟩)
    · rw [tables, nameEnd, nameEnd, fields]
    · rw [longer, behind, String.append_assoc]
    · rw [longer, behind, String.append_assoc]

/-- Keys overlap only where the name of one table is that of the other, a low line, and more. -/
theorem Overlaps.continues (overlaps : first.Overlaps holder second) :
    ∃ more, second.table = first.table ++ "_" ++ more := by
  obtain ⟨more, some, longer, behind⟩ := overlaps
  obtain ⟨c, rest, begins⟩ := List.exists_cons_of_ne_nil (mt String.toList_eq_nil_iff.1 some)
  have low : '_' = c := by
    have texts := congrArg String.toList behind
    simp only [nameEnd, String.toList_append, begins, List.cons_append] at texts
    exact (List.cons.inj texts).1
  have written : more = "_" ++ String.ofList rest := by
    simp [← String.toList_inj, begins, ← low]
  exact ⟨_, by rw [longer, written, String.append_assoc]⟩

end ForeignKey

/-! ### Keys of a table -/

namespace Table

variable (table : Table)

/-- The keys of a table that have no name of their own. -/
def unnamedKeys : List ForeignKey :=
  (table.foreignKeys.map Prod.snd).filter fun key => key.constraintName.isNone

/-- The default names of a table's keys. -/
def defaultNames : List String := table.unnamedKeys.map fun key => key.constraintOn table.name

/-- The default names are among the names of the table's constraints. -/
theorem defaultNames_sublist : table.defaultNames.Sublist table.constraintNames := by
  have all : table.constraintNames =
      (table.foreignKeys.map Prod.snd).map fun key => key.constraintOn table.name := by
    rw [constraintNames, List.map_map]
    rfl
  rw [all]
  exact List.filter_sublist.map _

/-- If no key has a name of its own, the default names are all of them. -/
theorem defaultNames_eq (unnamed : ∀ entry ∈ table.foreignKeys, entry.2.constraintName = none) :
    table.defaultNames = table.constraintNames := by
  have all : table.unnamedKeys = table.foreignKeys.map Prod.snd := by
    refine List.filter_eq_self.2 fun key inside => ?_
    obtain ⟨entry, within, rfl⟩ := List.mem_map.1 inside
    rw [unnamed entry within]
    rfl
  rw [defaultNames, all, constraintNames, List.map_map]
  rfl

variable {table}

theorem constraintName_of_mem {key : ForeignKey} (inside : key ∈ table.unnamedKeys) :
    key.constraintName = none :=
  Option.isNone_iff_eq_none.1 (List.mem_filter.1 inside).2

/-- **Default names are distinct if no two keys are confused, and only then.** -/
theorem nodup_defaultNames : table.defaultNames.Nodup ↔
    table.unnamedKeys.Pairwise fun first second => ¬ first.Confused table.name second := by
  rw [defaultNames, List.Nodup, List.pairwise_map]
  refine List.Pairwise.iff_of_mem fun {first second} left right => ?_
  rw [Ne, ForeignKey.constraintOn_eq_iff (constraintName_of_mem left) (constraintName_of_mem right)]

/-- Default names are distinct if the columns referred to are, unless the name of a table goes on with a low
line where that of another ends. -/
theorem nodup_defaultNames_of_apart
    (targets : (table.unnamedKeys.map fun key => (key.table, key.field)).Nodup)
    (apart : ∀ first ∈ table.unnamedKeys, ∀ second ∈ table.unnamedKeys, ∀ more,
      second.table ≠ first.table ++ "_" ++ more) : table.defaultNames.Nodup := by
  rw [nodup_defaultNames]
  rw [List.Nodup, List.pairwise_map] at targets
  refine targets.imp_of_mem fun {first second} left right differ => ?_
  rintro (⟨tables, fields⟩ | overlaps | overlaps)
  · exact differ (Prod.ext tables fields)
  · obtain ⟨more, longer⟩ := overlaps.continues
    exact apart first left second right more longer
  · obtain ⟨more, longer⟩ := overlaps.continues
    exact apart second right first left more longer

end Table

/-! ### Keys in a database -/

namespace Catalog

/-- Statements that are granted one after the other, and the catalog behind them. -/
inductive Grants : Catalog → List String → Catalog → Prop where
  | nil (catalog : Catalog) : Grants catalog [] catalog
  | cons {catalog final : Catalog} {sql : String} {rest : List String} {command : Command}
      (read : Command.read? sql = some command) (allowed : catalog.Allows command)
      (later : Grants (catalog.apply command) rest final) : Grants catalog (sql :: rest) final

theorem grants_cons {catalog final : Catalog} {sql : String} {rest : List String} {command : Command}
    (read : Command.read? sql = some command) : catalog.Grants (sql :: rest) final ↔
      catalog.Allows command ∧ (catalog.apply command).Grants rest final := by
  constructor
  · intro grants
    cases grants with
    | cons found allowed later =>
      cases found.symm.trans read
      exact ⟨allowed, later⟩
  · exact fun ⟨allowed, later⟩ => .cons read allowed later

theorem grants_nil {catalog final : Catalog} : catalog.Grants [] final ↔ final = catalog := by
  constructor
  · rintro ⟨⟩
    rfl
  · rintro rfl
    exact .nil _

/-- A catalog with more constraints. -/
def adding (catalog : Catalog) (constraints : List Constraint) : Catalog :=
  ⟨catalog.tables, constraints.toFinset ∪ catalog.constraints⟩

/-- A catalog without a constraint. -/
def without (catalog : Catalog) (constraint : Constraint) : Catalog :=
  ⟨catalog.tables, catalog.constraints.erase constraint⟩

/-- A constraint that is alone with its name is the only one that goes with it. -/
theorem apply_dropConstraint {catalog : Catalog} {constraint : Constraint}
    (alone : ∀ other ∈ catalog.constraints, other.key = constraint.key → other = constraint) :
    catalog.apply (.dropConstraint constraint.holder constraint.name) = catalog.without constraint := by
  rw [apply, without]
  congr 1
  ext other
  rw [Finset.mem_filter, Finset.mem_erase, and_comm]
  refine and_congr_left fun inside => not_congr ⟨alone other inside, ?_⟩
  rintro rfl
  rfl

open Migration

/-- **Keys are granted one after the other if their names differ and none is taken, and only then.** -/
theorem grants_createSteps {keys : List HeldKey} {catalog final : Catalog}
    (holders : ∀ held ∈ keys, held.holder ∈ catalog.tables)
    (targets : ∀ held ∈ keys, held.key.table ∈ catalog.tables) :
    catalog.Grants (keys.map fun held => held.createStep.sql) final ↔
      (keys.map fun held => held.constraint.key).Nodup ∧
      (∀ held ∈ keys, ∀ other ∈ catalog.constraints, other.key ≠ held.constraint.key) ∧
      final = catalog.adding (keys.map HeldKey.constraint) := by
  induction keys generalizing catalog with
  | nil => simp [grants_nil, adding]
  | cons held keys ih =>
    let next := catalog.apply (.addConstraint held.constraint)
    have holdersBehind : ∀ later ∈ keys, later.holder ∈ next.tables :=
      fun later inside => holders later (List.mem_cons_of_mem _ inside)
    have targetsBehind : ∀ later ∈ keys, later.key.table ∈ next.tables :=
      fun later inside => targets later (List.mem_cons_of_mem _ inside)
    have behind := ih holdersBehind targetsBehind
    have allowed : catalog.Allows (.addConstraint held.constraint) ↔
        ∀ other ∈ catalog.constraints, other.key ≠ held.constraint.key :=
      ⟨fun granted => granted.2.2,
        fun free => ⟨holders held List.mem_cons_self, targets held List.mem_cons_self, free⟩⟩
    have fresh : (∀ later ∈ keys, ∀ other ∈ next.constraints, other.key ≠ later.constraint.key) ↔
        held.constraint.key ∉ keys.map (fun later => later.constraint.key) ∧
        ∀ later ∈ keys, ∀ other ∈ catalog.constraints, other.key ≠ later.constraint.key := by
      simp only [next, apply, Finset.forall_mem_insert, List.mem_map, not_exists, not_and,
        forall_and, ne_comm]
    have differ : ((held :: keys).map fun later => later.constraint.key).Nodup ↔
        held.constraint.key ∉ keys.map (fun later => later.constraint.key) ∧
        (keys.map fun later => later.constraint.key).Nodup := List.nodup_cons
    have same : next.adding (keys.map HeldKey.constraint) =
        catalog.adding ((held :: keys).map HeldKey.constraint) := by
      simp [next, adding, apply, Finset.insert_union, Finset.union_insert]
    rw [List.map_cons, grants_cons held.read_createStep, behind, allowed, fresh, same,
      List.forall_mem_cons, differ]
    tauto

section Drop

variable {keys : List HeldKey} {catalog : Catalog}
  (distinct : (keys.map fun held => held.constraint.key).Nodup)
  (free : ∀ held ∈ keys, ∀ other ∈ catalog.constraints, other.key ≠ held.constraint.key)
include distinct free

/-- An added key is alone with its name. -/
theorem eq_of_key_adding {held : HeldKey} (inside : held ∈ keys) {other : Constraint}
    (among : other ∈ (catalog.adding (keys.map HeldKey.constraint)).constraints)
    (same : other.key = held.constraint.key) : other = held.constraint := by
  rcases Finset.mem_union.1 among with added | before
  · obtain ⟨key, within, rfl⟩ := List.mem_map.1 (List.mem_toFinset.1 added)
    rw [List.inj_on_of_nodup_map distinct within inside same]
  · exact absurd same (free held inside other before)

/-- A key that was added is the only one that goes with the statement that drops it. -/
theorem grants_dropStep {held : HeldKey} (inside : held ∈ keys) {rest : List String} {final : Catalog}
    (later : ((catalog.adding (keys.map HeldKey.constraint)).without held.constraint).Grants rest final) :
    (catalog.adding (keys.map HeldKey.constraint)).Grants (held.dropStep.sql :: rest) final := by
  have there : held.constraint ∈ (catalog.adding (keys.map HeldKey.constraint)).constraints :=
    Finset.mem_union_left _ (List.mem_toFinset.2 (List.mem_map_of_mem inside))
  refine .cons held.read_dropStep ⟨_, there, rfl⟩ ?_
  rwa [apply_dropConstraint fun other among => eq_of_key_adding distinct free inside among]

/-- **Keys that were added are dropped one after the other, and nothing else is.** -/
theorem grants_dropSteps : (catalog.adding (keys.map HeldKey.constraint)).Grants
    (keys.map fun held => held.dropStep.sql) catalog := by
  induction keys with
  | nil => simp [grants_nil, adding]
  | cons held keys ih =>
    obtain ⟨fresh, others⟩ := List.nodup_cons.1 distinct
    have left : (catalog.adding ((held :: keys).map HeldKey.constraint)).without held.constraint =
        catalog.adding (keys.map HeldKey.constraint) := by
      have missing : held.constraint ∉ (keys.map HeldKey.constraint).toFinset ∪ catalog.constraints := by
        rw [Finset.mem_union, List.mem_toFinset, List.mem_map]
        rintro (⟨other, inside, same⟩ | before)
        · exact fresh (List.mem_map.2 ⟨other, inside, congrArg Constraint.key same⟩)
        · exact free held List.mem_cons_self _ before rfl
      simp [adding, without, Finset.insert_union, Finset.erase_insert missing]
    refine grants_dropStep distinct free List.mem_cons_self ?_
    rw [left]
    exact ih others fun other inside => free other (List.mem_cons_of_mem _ inside)

end Drop

end Catalog

namespace Table

/-- The statements about a table's keys undo each other, between a database without the keys and one that
has them. -/
structure KeysUndone (table : Table) (without full : Catalog) : Prop where
  added : without.Grants table.createForeignKeySqls full
  /-- A statement drops the constraint that the statement at the same position added, and no other. -/
  undone : ∀ (position : Nat) (added : String),
    table.createForeignKeySqls[position]? = some added → ∃ dropped constraint,
      table.dropForeignKeySqls[position]? = some dropped ∧
      Command.read? added = some (.addConstraint constraint) ∧ constraint ∈ full.constraints ∧
      full.Grants [dropped] (full.without constraint)
  dropped : full.Grants table.dropForeignKeySqls without

variable (table : Table)

theorem createForeignKeySqls_eq :
    table.createForeignKeySqls = table.heldKeys.map fun held => held.createStep.sql := by
  rw [createForeignKeySqls, heldKeys, List.map_map]
  rfl

theorem dropForeignKeySqls_eq :
    table.dropForeignKeySqls = table.heldKeys.map fun held => held.dropStep.sql := by
  rw [dropForeignKeySqls, heldKeys, List.map_map]
  rfl

theorem nodup_heldKeys_iff :
    (table.heldKeys.map fun held => held.constraint.key).Nodup ↔ table.constraintNames.Nodup := by
  rw [Migration.map_key_heldKeys]
  exact List.nodup_map_iff fun first second same => (Prod.mk.inj same).2

section Database

variable {table} {catalog : Catalog} (there : table.name ∈ catalog.tables)
  (targets : ∀ entry ∈ table.foreignKeys, entry.2.table ∈ catalog.tables)
  (bare : ∀ constraint ∈ catalog.constraints, constraint.holder ≠ table.name)
include bare

theorem free_of_bare : ∀ held ∈ table.heldKeys, ∀ other ∈ catalog.constraints,
    other.key ≠ held.constraint.key := by
  intro held inside other before same
  have holders : other.holder = held.holder := (Prod.mk.inj same).1
  exact bare other before (holders.trans (Migration.holder_of_mem_heldKeys inside))

include there targets

/-- A database that has the tables, but none of the keys, grants the keys if their names differ. -/
theorem grants_createForeignKeySqls_iff {full : Catalog} :
    catalog.Grants table.createForeignKeySqls full ↔ table.constraintNames.Nodup ∧
      full = catalog.adding (table.heldKeys.map Migration.HeldKey.constraint) := by
  have holders : ∀ held ∈ table.heldKeys, held.holder ∈ catalog.tables := fun held inside =>
    Migration.holder_of_mem_heldKeys inside ▸ there
  have parents : ∀ held ∈ table.heldKeys, held.key.table ∈ catalog.tables := by
    intro held inside
    obtain ⟨entry, within, rfl⟩ := List.mem_map.1 inside
    exact targets entry within
  rw [createForeignKeySqls_eq, Catalog.grants_createSteps holders parents, nodup_heldKeys_iff]
  exact and_congr_right fun _ => and_iff_right (free_of_bare bare)

theorem exists_keysUndone (named : table.constraintNames.Nodup) :
    ∃ full, table.KeysUndone catalog full := by
  have distinct := table.nodup_heldKeys_iff.2 named
  have free := free_of_bare bare
  refine ⟨_, (grants_createForeignKeySqls_iff there targets bare).2 ⟨named, rfl⟩, ?_, ?_⟩
  · intro position added chosen
    rw [createForeignKeySqls_eq, List.getElem?_map] at chosen
    obtain ⟨held, here, rfl⟩ := Option.map_eq_some_iff.1 chosen
    have inside : held ∈ table.heldKeys := List.mem_of_getElem? here
    refine ⟨held.dropStep.sql, held.constraint, ?_, held.read_createStep, ?_, ?_⟩
    · rw [dropForeignKeySqls_eq, List.getElem?_map, here, Option.map_some]
    · exact Finset.mem_union_left _ (List.mem_toFinset.2 (List.mem_map_of_mem inside))
    · exact Catalog.grants_dropStep distinct free inside (.nil _)
  · rw [dropForeignKeySqls_eq]
    exact Catalog.grants_dropSteps distinct free

end Database

/-- **Default names are distinct unless two keys are confused.** They are so if the keys refer to different
columns and no table's name goes on with a low line where that of another ends. And a database grants the
statements that add the keys of a table if all names of its constraints differ, and only then: each of the
statements that drop them then takes away what its counterpart added, and no more. -/
theorem foreignKeys_named (table : Table) :
    (table.defaultNames.Nodup ↔
      table.unnamedKeys.Pairwise fun first second => ¬ first.Confused table.name second) ∧
    ((table.unnamedKeys.map fun key => (key.table, key.field)).Nodup →
      (∀ first ∈ table.unnamedKeys, ∀ second ∈ table.unnamedKeys, ∀ more,
        second.table ≠ first.table ++ "_" ++ more) → table.defaultNames.Nodup) ∧
    (table.defaultNames.Sublist table.constraintNames ∧
      ((∀ entry ∈ table.foreignKeys, entry.2.constraintName = none) →
        table.defaultNames = table.constraintNames)) ∧
    ∀ catalog : Catalog, table.name ∈ catalog.tables →
      (∀ entry ∈ table.foreignKeys, entry.2.table ∈ catalog.tables) →
      (∀ constraint ∈ catalog.constraints, constraint.holder ≠ table.name) →
      ((∃ full, catalog.Grants table.createForeignKeySqls full) ↔ table.constraintNames.Nodup) ∧
      (table.constraintNames.Nodup → ∃ full, table.KeysUndone catalog full) := by
  refine ⟨nodup_defaultNames, nodup_defaultNames_of_apart,
    ⟨table.defaultNames_sublist, table.defaultNames_eq⟩, fun catalog there targets bare => ⟨?_, ?_⟩⟩
  · constructor
    · rintro ⟨full, grants⟩
      exact ((grants_createForeignKeySqls_iff there targets bare).1 grants).1
    · intro named
      exact ⟨_, (grants_createForeignKeySqls_iff there targets bare).2 ⟨named, rfl⟩⟩
  · exact exists_keysUndone there targets bare

/-- Matches: both teams are keys to one column, and one of the two keys has a name of its own. -/
def fixtures : Table where
  name := "fixtures"
  columns := [
    { name := "home", type := .int, foreignKey := some { table := "teams", field := "id" } },
    { name := "away", type := .int,
      foreignKey := some { table := "teams", field := "id", constraintName := some "away" } },
    { name := "referee", type := .int, foreignKey := some { table := "people", field := "id" } }]

theorem foreignKeys_named_fixtures :
    (fixtures.unnamedKeys.Pairwise fun first second => ¬ first.Confused "fixtures" second) ∧
    ∃ full, fixtures.KeysUndone ⟨{"fixtures", "teams", "people"}, ∅⟩ full := by
  obtain ⟨names, apart, -, database⟩ := foreignKeys_named fixtures
  have targets : (fixtures.unnamedKeys.map fun key => (key.table, key.field)).Nodup := by decide
  refine ⟨names.1 (apart targets fun first left second right more same => ?_), ?_⟩
  · have listed : ∀ key ∈ fixtures.unnamedKeys, key.table = "teams" ∨ key.table = "people" := by decide
    have texts := congrArg String.toList same
    rcases listed first left with here | here <;> rcases listed second right with behind | behind <;>
      simp [here, behind] at texts
  · exact (database _ (by decide) (by decide) (by decide)).2 (by decide)

/-- People with two keys to one column of posts. -/
def readers : Table where
  name := "users"
  columns := [
    { name := "id", type := .int, primaryKey := true },
    { name := "best", type := .int, foreignKey := some { table := "posts", field := "id" } },
    { name := "last", type := .int, foreignKey := some { table := "posts", field := "id" } }]

/-- A table whose name and whose keys share a low line. -/
def linked : Table where
  name := "a"
  columns := [
    { name := "one", type := .int, foreignKey := some { table := "x", field := "a_id" } },
    { name := "two", type := .int, foreignKey := some { table := "x_a", field := "id" } }]

/-- Two keys to one column are named alike, and so are two whose parts run into each other: the tables are
sound, and no database that has just the tables takes both keys. -/
theorem foreignKeys_named_alike :
    (readers.validate = .ok () ∧ readers.defaultNames = ["fk_posts_users_id", "fk_posts_users_id"] ∧
      ¬ ∃ full, Catalog.Grants ⟨{"users", "posts"}, ∅⟩ readers.createForeignKeySqls full) ∧
    linked.validate = .ok () ∧ linked.defaultNames = ["fk_x_a_a_id", "fk_x_a_a_id"] := by
  refine ⟨⟨by decide +kernel, by decide +kernel, ?_⟩, by decide +kernel, by decide +kernel⟩
  rintro ⟨full, grants⟩
  have named := ((grants_createForeignKeySqls_iff (by decide) (by decide) (by decide)).1 grants).1
  exact absurd named (by decide +kernel)

end Table

end SqlCraft
