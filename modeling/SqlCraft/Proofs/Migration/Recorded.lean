/-
**What a snapshot holds after tables were recorded.**

Recording tables of different names puts each of them under its name and leaves every other name as
it was. So a recorded table is unchanged from then on, if it equals itself:

* `get?_record_of_mem`, `get?_record_of_not_mem` — what is held under a name;
* `isChanged_congr` — a table is changed or not by what is held under its name;
* `get?_record_cases`, `contains_record` — the same without a condition on the names;
* `mem_tables_iff` — the recorded tables are those that are held under some name.
-/

import SqlCraft.Migration.Run

namespace SqlCraft

/-- An entry of ascending keys is the one that its key is looked up to. -/
theorem SortedEntries.lookup_eq_some_iff {α : Type} {entries : List (String × α)} {key : String}
    {value : α} (ascending : Ascending entries) :
    entries.lookup key = some value ↔ (key, value) ∈ entries := by
  induction entries with
  | nil => simp
  | cons first rest ih =>
    obtain ⟨name, held⟩ := first
    obtain ⟨above, tail⟩ := List.pairwise_cons.1 ascending
    by_cases same : key = name
    · subst same
      have fresh : (key, value) ∉ rest := fun inside => String.lt_irrefl key (above _ inside)
      rw [List.lookup_cons_self, List.mem_cons]
      constructor
      · intro found
        exact .inl (by rw [Option.some.inj found])
      · rintro (first | later)
        · rw [(Prod.mk.inj first).2]
        · exact absurd later fresh
    · rw [List.lookup_cons, beq_false_of_ne same, List.mem_cons]
      constructor
      · intro found
        exact .inr ((ih tail).1 found)
      · rintro (first | later)
        · exact absurd (Prod.mk.inj first).1 same
        · exact (ih tail).2 later

namespace Snapshot

theorem mem_tables_iff {snapshot : Snapshot} {table : Table} :
    table ∈ snapshot.tables ↔ ∃ name, snapshot.get? name = some table := by
  constructor
  · intro inside
    obtain ⟨⟨name, held⟩, entry, rfl⟩ := List.mem_map.1 inside
    exact ⟨name, (SortedEntries.lookup_eq_some_iff snapshot.ascending).2 entry⟩
  · rintro ⟨name, found⟩
    exact List.mem_map_of_mem (f := Prod.snd)
      ((SortedEntries.lookup_eq_some_iff snapshot.ascending).1 found)

/-- Whether a table is changed depends on what is held under its name. -/
theorem isChanged_congr {first second : Snapshot} {table : Table}
    (same : first.get? table.name = second.get? table.name) :
    first.isChanged table = second.isChanged table := by
  rw [isChanged, isChanged, same]

/-- A table that is not changed equals what is recorded under its name. -/
theorem isChanged_eq_false_iff {snapshot : Snapshot} {table : Table} :
    snapshot.isChanged table = false ↔
      ∃ recorded, snapshot.get? table.name = some recorded ∧ recorded == table := by
  rw [isChanged, Bool.not_eq_false', Option.any_eq_true]

/-- A table that is not changed is recorded. -/
theorem contains_of_unchanged {snapshot : Snapshot} {table : Table}
    (same : snapshot.isChanged table = false) : snapshot.contains table.name := by
  rw [isChanged, Bool.not_eq_false'] at same
  rw [contains]
  cases held : snapshot.get? table.name with
  | none =>
    rw [held] at same
    cases same
  | some recorded => rfl

end Snapshot

namespace Migration

theorem get?_record_of_not_mem {tables : List Table} {name : String} (snapshot : Snapshot)
    (other : name ∉ tables.map Table.name) :
    (record snapshot tables).get? name = snapshot.get? name := by
  induction tables generalizing snapshot with
  | nil => rfl
  | cons table rest ih =>
    rw [List.map_cons, List.mem_cons, not_or] at other
    have later := ih (snapshot.insert table.name table) other.2
    rw [Snapshot.get?_insert, if_neg other.1] at later
    exact later

theorem get?_record_of_mem {tables : List Table} {table : Table} (snapshot : Snapshot)
    (distinct : (tables.map Table.name).Nodup) (inside : table ∈ tables) :
    (record snapshot tables).get? table.name = some table := by
  induction tables generalizing snapshot with
  | nil => cases inside
  | cons first rest ih =>
    rw [List.map_cons, List.nodup_cons] at distinct
    rcases List.mem_cons.1 inside with rfl | later
    · have held := get?_record_of_not_mem (snapshot.insert table.name table) distinct.1
      rw [Snapshot.get?_insert, if_pos rfl] at held
      exact held
    · exact ih (snapshot.insert first.name first) distinct.2 later

/-- What is held under a name behind recorded tables is one of them, or what was held before. -/
theorem get?_record_cases {snapshot : Snapshot} {tables : List Table} {name : String} {held : Table}
    (found : (record snapshot tables).get? name = some held) :
    (held ∈ tables ∧ held.name = name) ∨
      (name ∉ tables.map Table.name ∧ snapshot.get? name = some held) := by
  induction tables generalizing snapshot with
  | nil => exact .inr ⟨List.not_mem_nil, found⟩
  | cons table rest ih =>
    rcases ih found with ⟨inside, same⟩ | ⟨outside, earlier⟩
    · exact .inl ⟨List.mem_cons_of_mem _ inside, same⟩
    · rw [Snapshot.get?_insert] at earlier
      by_cases here : name = table.name
      · rw [if_pos here] at earlier
        obtain rfl := Option.some.inj earlier
        exact .inl ⟨List.mem_cons_self, here.symm⟩
      · rw [if_neg here] at earlier
        refine .inr ⟨?_, earlier⟩
        rw [List.map_cons, List.mem_cons, not_or]
        exact ⟨here, outside⟩

theorem contains_record (snapshot : Snapshot) (tables : List Table) (name : String) :
    (record snapshot tables).contains name ↔
      name ∈ tables.map Table.name ∨ snapshot.contains name := by
  induction tables generalizing snapshot with
  | nil => exact (or_iff_right List.not_mem_nil).symm
  | cons table rest ih =>
    have inserted : (snapshot.insert table.name table).contains name ↔
        name = table.name ∨ snapshot.contains name := by
      rw [Snapshot.contains, Snapshot.get?_insert]
      by_cases here : name = table.name
      · rw [if_pos here]
        exact iff_of_true rfl (.inl here)
      · rw [if_neg here]
        exact (or_iff_right here).symm
    have later := ih (snapshot.insert table.name table)
    rw [inserted] at later
    rw [List.map_cons, List.mem_cons, or_assoc, or_left_comm]
    exact later

end Migration

end SqlCraft
