/-
**Rows: fields with values, in the order the fields were first set.**

A row is both the input of a mutation and the output of a query. Setting a field that the row has
replaces its value and keeps its place; a new field goes to the end. So no field occurs twice, which
the type of rows records.

* `fields_insert` — the fields of a row after an insertion;
* `get?_insert` — the values of a row after an insertion.
-/

import SqlCraft.Value

namespace SqlCraft

/-- A row: fields with their values, no field twice. -/
structure Row where
  entries : List (String × Value)
  distinct : (entries.map Prod.fst).Nodup := by decide
deriving DecidableEq

namespace Row

/-- The row without fields. -/
def empty : Row := ⟨[], List.nodup_nil⟩

instance : Inhabited Row := ⟨empty⟩

/-- The field names, in order. -/
def fields (row : Row) : List String := row.entries.map Prod.fst

/-- The values, in order. -/
def values (row : Row) : List Value := row.entries.map Prod.snd

/-- The number of fields. -/
def size (row : Row) : Nat := row.entries.length

/-- Whether the row has no fields. -/
def isEmpty (row : Row) : Bool := row.entries.isEmpty

theorem isEmpty_iff {row : Row} : row.isEmpty ↔ row.fields = [] := by
  rw [isEmpty, List.isEmpty_iff, fields, List.map_eq_nil_iff]

/-- The value of a field. -/
def get? (row : Row) (field : String) : Option Value := row.entries.lookup field

/-! ### Insertion -/

/-- Entries with one field set: in its place if it is there, else at the end. -/
def put (field : String) (value : Value) : List (String × Value) → List (String × Value)
  | [] => [(field, value)]
  | (name, held) :: rest =>
    if name = field then (name, value) :: rest else (name, held) :: put field value rest

theorem map_fst_put (field : String) (value : Value) (entries : List (String × Value)) :
    (put field value entries).map Prod.fst =
      if field ∈ entries.map Prod.fst then entries.map Prod.fst
      else entries.map Prod.fst ++ [field] := by
  induction entries with
  | nil => rfl
  | cons entry rest ih =>
    obtain ⟨name, held⟩ := entry
    by_cases same : name = field
    · simp [put, same]
    · have other : ¬ field = name := fun h => same h.symm
      by_cases inside : field ∈ rest.map Prod.fst <;>
        simp_all [put]

theorem nodup_put {field : String} {value : Value} {entries : List (String × Value)}
    (distinct : (entries.map Prod.fst).Nodup) : ((put field value entries).map Prod.fst).Nodup := by
  rw [map_fst_put]
  split
  · exact distinct
  · rename_i absent
    rw [List.nodup_append]
    refine ⟨distinct, by simp, fun name inside other single same => absent ?_⟩
    rw [← List.mem_singleton.1 single, ← same]
    exact inside

/-- The row with one field set. -/
def insertValue (row : Row) (field : String) (value : Value) : Row :=
  ⟨put field value row.entries, nodup_put row.distinct⟩

/-- The row with one field set to a host value. -/
def insert {α : Type} [ToValue α] (row : Row) (field : String) (value : α) : Row :=
  row.insertValue field (toValue value)

/-- The row that results from setting fields one after another. -/
def ofList (entries : List (String × Value)) : Row :=
  entries.foldl (fun row entry => row.insertValue entry.1 entry.2) empty

/-! ### What insertion does -/

theorem fields_insert (row : Row) (field : String) (value : Value) :
    (row.insertValue field value).fields =
      if field ∈ row.fields then row.fields else row.fields ++ [field] :=
  map_fst_put field value row.entries

theorem lookup_put (field name : String) (value : Value) (entries : List (String × Value)) :
    (put field value entries).lookup name =
      if name = field then some value else entries.lookup name := by
  induction entries with
  | nil =>
    by_cases h : name = field
    · simp [put, h]
    · simp [put, List.lookup_cons, h, beq_false_of_ne h]
  | cons entry rest ih =>
    obtain ⟨first, held⟩ := entry
    by_cases same : first = field
    · by_cases h : name = field
      · simp [put, same, h]
      · simp [put, same, List.lookup_cons, h, beq_false_of_ne h]
    · by_cases h : name = first
      · simp [put, same, h]
      · simp [put, same, List.lookup_cons, beq_false_of_ne h, ih]

theorem get?_insert (row : Row) (field name : String) (value : Value) :
    (row.insertValue field value).get? name =
      if name = field then some value else row.get? name :=
  lookup_put field name value row.entries

end Row

end SqlCraft
