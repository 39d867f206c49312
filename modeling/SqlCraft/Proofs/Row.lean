/-
**Rows hold what was inserted last, where it was inserted first.**

A row is filled by insertions, and by collections that replace it as a whole. What it holds depends on the
insertions since it was last replaced, those of the collection among them: each field has the value that
was inserted last, and stands where the field was inserted first. Behind any such calls, one more insertion
either changes the value of its field and nothing else, or it goes to the end.

* `entries_insertValue_of_mem`, `entries_insertValue_of_not_mem` — one insertion into a row;
* `MapOf` — a row holds what was inserted;
* `MapOf.insertValue`, `MapOf.change` — and does so with one more call;
* `MapOf.run` — any sequence of calls.
-/

import SqlCraft.Proofs.Mention
import SqlCraft.Row

namespace SqlCraft.Row

/-! ### One insertion -/

theorem put_of_mem {field : String} {value : Value} {entries : List (String × Value)}
    (distinct : (entries.map Prod.fst).Nodup) (inside : field ∈ entries.map Prod.fst) :
    put field value entries =
      entries.map fun entry => if entry.1 = field then (field, value) else entry := by
  induction entries with
  | nil => cases inside
  | cons entry rest ih =>
    obtain ⟨name, held⟩ := entry
    obtain ⟨fresh, distinct⟩ := List.nodup_cons.1 distinct
    rw [put, List.map_cons]
    by_cases same : name = field
    · have others : ∀ entry ∈ rest,
          (if entry.1 = field then (field, value) else entry) = entry := fun entry among =>
        if_neg fun equal => fresh (List.mem_map.2 ⟨entry, among, equal.trans same.symm⟩)
      rw [if_pos same, if_pos same, List.map_congr_left others, List.map_id', same]
    · have later : field ∈ rest.map Prod.fst :=
        (List.mem_cons.1 inside).resolve_left fun equal => same equal.symm
      rw [if_neg same, if_neg same, ih distinct later]

theorem put_of_not_mem {field : String} {value : Value} {entries : List (String × Value)}
    (absent : field ∉ entries.map Prod.fst) : put field value entries = entries ++ [(field, value)] := by
  induction entries with
  | nil => rfl
  | cons entry rest ih =>
    obtain ⟨other, later⟩ := not_or.1 (mt List.mem_cons.2 absent)
    rw [put, if_neg (Ne.symm other), ih later, List.cons_append]

/-- **A field that the row has changes its value, and nothing else changes.** -/
theorem entries_insertValue_of_mem {row : Row} {field : String} (inside : field ∈ row.fields)
    (value : Value) : (row.insertValue field value).entries =
      row.entries.map fun entry => if entry.1 = field then (field, value) else entry :=
  put_of_mem row.distinct inside

/-- **A new field goes to the end.** -/
theorem entries_insertValue_of_not_mem {row : Row} {field : String} (absent : field ∉ row.fields)
    (value : Value) : (row.insertValue field value).entries = row.entries ++ [(field, value)] :=
  put_of_not_mem absent

/-! ### Many insertions -/

/-- A row holds what was inserted. -/
structure MapOf (row : Row) (inserted : List (String × Value)) : Prop where
  distinct : row.fields.Nodup
  /-- Fields stand in the order of their first insertion. -/
  fields_eq : row.fields = (inserted.map Prod.fst).eraseDups
  /-- A field has the value that is found first from the end. -/
  get?_eq : ∀ field, row.get? field = inserted.reverse.lookup field

theorem empty_mapOf : empty.MapOf [] := ⟨empty.distinct, rfl, fun _ => rfl⟩

/-- **A row holds one more insertion.** -/
theorem MapOf.insertValue {row : Row} {inserted : List (String × Value)} (holds : row.MapOf inserted)
    (field : String) (value : Value) :
    (row.insertValue field value).MapOf (inserted ++ [(field, value)]) where
  distinct := (row.insertValue field value).distinct
  fields_eq := by
    rw [fields_insert, holds.fields_eq, List.map_append, List.map_cons, List.map_nil,
      eraseDups_append_singleton]
  get?_eq name := by
    rw [get?_insert, holds.get?_eq, List.reverse_append, List.reverse_singleton, List.singleton_append,
      List.lookup_cons]
    by_cases same : name = field
    · rw [if_pos same, same, beq_self_eq_true]
    · rw [if_neg same, beq_false_of_ne same]

theorem MapOf.insertAll {row : Row} {inserted : List (String × Value)} (holds : row.MapOf inserted)
    (entries : List (String × Value)) :
    (entries.foldl (fun row entry => row.insertValue entry.1 entry.2) row).MapOf
      (inserted ++ entries) := by
  induction entries generalizing row inserted with
  | nil => rwa [List.append_nil]
  | cons entry rest ih =>
    rw [List.append_cons]
    exact ih (holds.insertValue entry.1 entry.2)

/-- A collected row holds what was collected. -/
theorem ofList_mapOf (entries : List (String × Value)) : (ofList entries).MapOf entries :=
  empty_mapOf.insertAll entries

/-- New fields go to the end one after another. -/
theorem entries_insertAll {row : Row} {entries : List (String × Value)}
    (distinct : ((row.entries ++ entries).map Prod.fst).Nodup) :
    (entries.foldl (fun row entry => row.insertValue entry.1 entry.2) row).entries =
      row.entries ++ entries := by
  induction entries generalizing row with
  | nil => exact (List.append_nil _).symm
  | cons entry rest ih =>
    have fresh : entry.1 ∉ row.fields := by
      rw [List.map_append, List.map_cons] at distinct
      exact fun inside => (List.nodup_append.1 distinct).2.2 _ inside _ List.mem_cons_self rfl
    have added := entries_insertValue_of_not_mem fresh entry.2
    rw [List.append_cons, ← added] at distinct ⊢
    exact ih distinct

/-- Collecting the entries of a row gives the row. -/
theorem ofList_entries (row : Row) : ofList row.entries = row := by
  have same : (ofList row.entries).entries = row.entries := entries_insertAll row.distinct
  cases collected : ofList row.entries
  rw [collected] at same
  cases row
  cases same
  rfl

/-- Every row holds its own entries. -/
theorem mapOf_entries (row : Row) : row.MapOf row.entries := by
  have collected := ofList_mapOf row.entries
  rwa [ofList_entries] at collected

/-! ### Any sequence of calls -/

/-- One call on a row. -/
inductive Change : Type 1 where
  /-- A field is set to a host value. -/
  | insert {α : Type} [ToValue α] (field : String) (value : α)
  /-- Entries are collected into a row that replaces it. -/
  | collect (entries : List (String × Value))

/-- The row behind a call. -/
def change (row : Row) : Change → Row
  | @Change.insert _ _ field value => row.insert field value
  | .collect entries => ofList entries

/-- What is inserted since the row was last replaced, with one more call. -/
def Change.record (inserted : List (String × Value)) : Change → List (String × Value)
  | @insert _ _ field value => inserted ++ [(field, toValue value)]
  | .collect entries => entries

/-- **A row holds what is inserted, also with one more call.** -/
theorem MapOf.change {row : Row} {inserted : List (String × Value)} (holds : row.MapOf inserted)
    (change : Change) : (row.change change).MapOf (change.record inserted) := by
  cases change with
  | insert field value => exact holds.insertValue field (toValue value)
  | collect entries => exact ofList_mapOf entries

/-- **Any sequence of calls leaves a row that holds what was inserted.** -/
theorem MapOf.run {row : Row} {inserted : List (String × Value)} (holds : row.MapOf inserted)
    (changes : List Change) :
    (changes.foldl Row.change row).MapOf (changes.foldl Change.record inserted) := by
  induction changes generalizing row inserted with
  | nil => exact holds
  | cons change rest ih => exact ih (holds.change change)

end SqlCraft.Row
