/-
**Reading what becomes of a stored row.**

Behind the values of an insertion a name is given to the incoming row, and assignments say what becomes of
a stored row that has its key. A field is that of the row whose name stands in front of it: the table's, or
the one that was given. Quotes make no difference to a name, so nothing is read if the two are the same.
Assignments are made from left to right, and each sees what the ones before it made of the stored row.

* `Merge` — an assignment of a sum to a field of the stored row;
* `merges?` — the reader;
* `merged` — the stored row behind the assignments;
* `merged_of_forall_ne`, `merged_of_mem` — fields without an assignment, and fields with one, as long as
  no assignment sees another.
-/

import Mathlib.Logic.Function.Basic
import SqlCraft.Proofs.Sql.Written

namespace SqlCraft.Sql

/-- A field of one of the two rows that meet. -/
inductive Summand where
  | stored (field : String)
  | incoming (field : String)
deriving DecidableEq

/-- An assignment of a sum to a field of the stored row. -/
structure Merge where
  field : String
  first : Summand
  further : List Summand
deriving DecidableEq

/-- An assignment reads no field of the stored row but its own. -/
def Merge.Own (merge : Merge) : Prop :=
  ∀ field, .stored field ∈ merge.first :: merge.further → field = merge.field

/-! ### The reader -/

/-- The name that a token can stand for, in quotes or without. -/
def Token.asName? : Token → Option String
  | .name text => some text
  | .symbol text => if text.toList.all Lexeme.isLetter then some text else none
  | .value _ => none

section

variable (table given : String)

/-- The field that a part of a sum names. -/
def summand? : List Token → Option Summand
  | [owner, .symbol ".", .name field] =>
    if owner.asName? = some table then some (.stored field)
    else if owner.asName? = some given then some (.incoming field)
    else none
  | _ => none

/-- The assignment that a part of the list makes. -/
def merge? : List Token → Option Merge
  | owner :: .symbol "." :: .name field :: .symbol "=" :: sum => do
    match ← (sum.splitOn (.symbol "+")).mapM (summand? table given) with
    | first :: further => if owner.asName? = some table then some ⟨field, first, further⟩ else none
    | [] => none
  | _ => none

variable {table given} in
/-- A sum is read summand by summand. -/
theorem merge?_append {field : String} {sum : List (List Token)} {first : Summand} {further : List Summand}
    (apart : ∀ part ∈ sum, .symbol "+" ∉ part)
    (read : sum.mapM (summand? table given) = some (first :: further)) :
    merge? table given ([.name table, .symbol ".", .name field, .symbol "="] ++
      [.symbol "+"].intercalate sum) = some ⟨field, first, further⟩ := by
  have some : sum ≠ [] := by
    rintro rfl
    cases read
  simp only [List.cons_append, List.nil_append, merge?]
  rw [List.splitOn_intercalate _ apart some, read, Option.bind_eq_bind, Option.bind_some]
  exact if_pos rfl

end

/-- What becomes of a stored row of a table by what stands behind the values of an insertion. -/
def merges? (table : String) : List Token → Option (List Merge)
  | .symbol "AS" :: name :: .symbol "ON" :: .symbol "DUPLICATE" :: .symbol "KEY" :: .symbol "UPDATE" ::
      list => do
    let given ← name.asName?
    if given = table then none else (parts list).mapM (merge? table given)
  | _ => none

/-- Nothing is read if the incoming row is named like the table, in quotes or not. -/
theorem merges?_self {table : String} (letters : table.toList.all Lexeme.isLetter) (list : List Token) :
    merges? table (["AS", table, "ON", "DUPLICATE", "KEY", "UPDATE"].map .symbol ++ list) = none := by
  have named : (Token.symbol table).asName? = some table := if_pos letters
  simp [merges?, named]

/-! ### What the stored row becomes -/

section

variable (plus : Value → Value → Value) (incoming stored : String → Value)

/-- What a field holds. -/
def Summand.value : Summand → Value
  | .stored field => stored field
  | .incoming field => incoming field

/-- The sum that is assigned. -/
def Merge.value (merge : Merge) : Value :=
  merge.further.foldl (fun sum summand => plus sum (summand.value incoming stored))
    (merge.first.value incoming stored)

/-- The stored row behind one assignment. -/
def Merge.apply (merge : Merge) : String → Value :=
  Function.update stored merge.field (merge.value plus incoming stored)

/-- The stored row behind all assignments. -/
def merged (merges : List Merge) : String → Value :=
  merges.foldl (fun held merge => merge.apply plus incoming held) stored

end

section

variable {plus : Value → Value → Value} {incoming stored : String → Value}

/-- **A field without an assignment keeps its value.** -/
theorem merged_of_forall_ne {merges : List Merge} {field : String}
    (kept : ∀ merge ∈ merges, merge.field ≠ field) :
    merged plus incoming stored merges field = stored field := by
  induction merges generalizing stored with
  | nil => rfl
  | cons merge rest ih =>
    obtain ⟨here, later⟩ := List.forall_mem_cons.1 kept
    exact (ih later).trans (Function.update_of_ne (Ne.symm here) _ _)

theorem Merge.value_congr {merge : Merge} (own : merge.Own) {other : String → Value}
    (same : stored merge.field = other merge.field) :
    merge.value plus incoming stored = merge.value plus incoming other := by
  have each : ∀ summand ∈ merge.first :: merge.further,
      summand.value incoming stored = summand.value incoming other := by
    intro summand inside
    cases summand with
    | incoming field => rfl
    | stored field =>
      obtain rfl := own field inside
      exact same
  obtain ⟨first, further⟩ := List.forall_mem_cons.1 each
  rw [value, value, first]
  exact List.foldl_ext _ _ _ fun sum summand inside => by rw [further summand inside]

/-- **A field with an assignment gets its sum**, as if nothing else had been assigned. -/
theorem merged_of_mem {merges : List Merge} (own : ∀ merge ∈ merges, merge.Own)
    (distinct : (merges.map Merge.field).Nodup) {merge : Merge} (inside : merge ∈ merges) :
    merged plus incoming stored merges merge.field = merge.value plus incoming stored := by
  induction merges generalizing stored with
  | nil => cases inside
  | cons next rest ih =>
    obtain ⟨fresh, distinct⟩ := List.nodup_cons.1 distinct
    obtain ⟨-, owns⟩ := List.forall_mem_cons.1 own
    rcases List.mem_cons.1 inside with rfl | later
    -- What was assigned stays: no later assignment is to the same field.
    · have kept : ∀ other ∈ rest, other.field ≠ merge.field := fun other among same =>
        fresh (same ▸ List.mem_map_of_mem among)
      exact (merged_of_forall_ne kept).trans (Function.update_self _ _ _)
    -- What was assigned before is not seen: it is to another field than the one that is read.
    · have other : merge.field ≠ next.field := fun same => fresh (same ▸ List.mem_map_of_mem later)
      refine (ih owns distinct later).trans (Merge.value_congr (owns merge later) ?_)
      exact Function.update_of_ne other _ _

end

end SqlCraft.Sql
