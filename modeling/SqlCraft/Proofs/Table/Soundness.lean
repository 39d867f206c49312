/-
**What is known of sound tables.**

In a table without flaws no two columns have one name, so a column is found by its name. In particular
the columns that are found to be key by their name are those that are marked as key.

* `Table.nodup_columnNames` — the columns of a sound table have distinct names;
* `Table.column?_of_mem` — each of them is found by its name;
* `Table.isPrimaryKey_iff` — the names of the primary key.
-/

import Mathlib.Data.List.Nodup
import SqlCraft.Table.Validity

namespace SqlCraft.Table

theorem orElse_eq_none {first second : Option TableFlaw} (none : (first <|> second) = none) :
    first = Option.none ∧ second = Option.none := by
  simpa using none

theorem nodup_of_declarationFlaw? {earlier : List String} {columns : List Column}
    (sound : declarationFlaw? earlier columns = none) :
    (∀ column ∈ columns, column.name ∉ earlier) ∧ (columns.map Column.name).Nodup := by
  induction columns generalizing earlier with
  | nil => simp
  | cons column rest ih =>
    rw [declarationFlaw?] at sound
    split at sound
    · cases sound
    rename_i fresh
    obtain ⟨-, later⟩ := orElse_eq_none sound
    obtain ⟨apart, distinct⟩ := ih later
    have fresh : column.name ∉ earlier := fun inside => fresh (List.contains_iff_mem.2 inside)
    refine ⟨List.forall_mem_cons.2 ⟨fresh, fun other inside => ?_⟩, ?_⟩
    · exact fun before => apart other inside (List.mem_cons_of_mem _ before)
    · rw [List.map_cons, List.nodup_cons]
      refine ⟨fun again => ?_, distinct⟩
      obtain ⟨other, inside, same⟩ := List.mem_map.1 again
      exact apart other inside (same ▸ List.mem_cons_self)

theorem nodup_columnNames {table : Table} (sound : table.validate = .ok ()) :
    table.columnNames.Nodup := by
  have none : table.flaw? = none := by
    unfold validate at sound
    split at sound
    · cases sound
    · assumption
  unfold flaw? at none
  split at none
  · cases none
  split at none
  · cases none
  exact (nodup_of_declarationFlaw? (orElse_eq_none none).1).2

variable {table : Table}

theorem mem_of_column? {name : String} {column : Column} (found : table.column? name = some column) :
    column ∈ table.columns ∧ column.name = name := by
  unfold column? at found
  have same := List.find?_some found
  exact ⟨List.mem_of_find?_eq_some found, beq_iff_eq.1 same⟩

theorem column?_of_mem (distinct : table.columnNames.Nodup) {column : Column}
    (inside : column ∈ table.columns) : table.column? column.name = some column := by
  have declared : (table.column? column.name).isSome :=
    List.find?_isSome.2 ⟨column, inside, beq_self_eq_true _⟩
  obtain ⟨other, found⟩ := Option.isSome_iff_exists.1 declared
  obtain ⟨among, same⟩ := mem_of_column? found
  rw [found, List.inj_on_of_nodup_map distinct among inside same]

/-- **A column is key by its name if its name is among those of the primary key.** -/
theorem isPrimaryKey_iff (distinct : table.columnNames.Nodup) (name : String) :
    table.isPrimaryKey name ↔ name ∈ table.primaryKey := by
  simp only [isPrimaryKey, Option.any_eq_true, primaryKey, List.mem_map, List.mem_filter]
  constructor
  · rintro ⟨column, found, key⟩
    obtain ⟨inside, same⟩ := mem_of_column? found
    exact ⟨column, ⟨inside, key⟩, same⟩
  · rintro ⟨column, ⟨inside, key⟩, rfl⟩
    exact ⟨column, column?_of_mem distinct inside, key⟩

theorem nodup_primaryKey (distinct : table.columnNames.Nodup) : table.primaryKey.Nodup :=
  distinct.sublist (List.filter_sublist.map Column.name)

end SqlCraft.Table
