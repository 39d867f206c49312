/-
**Mutations with other values.**

Rows can be given any other values, and filters such that nulls stay where they are. Each node then has
the same writes with the other values in them, or is refused for the same reason, and the statement of
each write is the same but for its values.

* `Mutation.mapValues` — a mutation with other values in its filters and in its rows;
* `MutationNode.writes_mapValues` — the writes of a node with other values;
* `Statement.blank`, `Plan.blank` — what is left of a statement and of a plan without the values;
* `Write.blank_statement` — the statement of a write with other values.
-/

import SqlCraft.Mutation.Plan
import SqlCraft.Proofs.Query.Change

namespace SqlCraft

open Sql (ColumnName Fragment Piece Statement Binding)

/-! ### Other values -/

/-- Entries with other values. -/
def mapEntries (fill : Value → Value) (entries : List (String × Value)) : List (String × Value) :=
  entries.map fun entry => (entry.1, fill entry.2)

theorem fst_mapEntries (fill : Value → Value) (entries : List (String × Value)) :
    (mapEntries fill entries).map Prod.fst = entries.map Prod.fst := by
  rw [mapEntries, List.map_map]
  rfl

theorem isEmpty_mapEntries (fill : Value → Value) (entries : List (String × Value)) :
    (mapEntries fill entries).isEmpty = entries.isEmpty :=
  List.isEmpty_map

/-- A row with other values. -/
def Row.mapValues (fill : Value → Value) (row : Row) : Row where
  entries := mapEntries fill row.entries
  distinct := by
    rw [fst_mapEntries]
    exact row.distinct

section

variable (change fill : Value → Value)

/-- An operation with other values in its filter and in its rows. -/
def MutationOp.mapValues : MutationOp → MutationOp
  | .rows kind list => .rows kind (list.map (Row.mapValues fill))
  | .setUpdate assignments filter =>
    .setUpdate (assignments.mapValues fill) (filter.mapValues change)
  | .setDelete filter => .setDelete (filter.mapValues change)
  | .setInsert columns source => .setInsert columns (source.mapValues change)

/-- A node with other values. -/
def MutationNode.mapValues (node : MutationNode) : MutationNode :=
  ⟨node.table, node.op.mapValues change fill⟩

/-- A mutation with other values in its filters and in its rows. -/
def Mutation.mapValues (mutation : Mutation) : Mutation :=
  mutation.map (MutationNode.mapValues change fill)

/-- A split row with other values. -/
def KeyedRow.mapValues (row : KeyedRow) : KeyedRow :=
  ⟨mapEntries fill row.entries, mapEntries fill row.key, mapEntries fill row.others⟩

/-- A write with other values. -/
def Write.mapValues : Write → Write
  | .row kind keyed => .row kind (keyed.mapValues fill)
  | .update assignments clauses => .update (mapEntries fill assignments) (mapClauses change clauses)
  | .delete clauses => .delete (mapClauses change clauses)
  | .insertSelect columns source => .insertSelect columns (source.mapValues change)

end

/-! ### The writes of a node -/

section

variable {change : Value → Value} (fill : Value → Value)

theorem Row.fields_mapValues (row : Row) : (row.mapValues fill).fields = row.fields :=
  fst_mapEntries fill row.entries

theorem KeyedRow.fields_mapValues (row : KeyedRow) : (row.mapValues fill).fields = row.fields :=
  fst_mapEntries fill row.entries

theorem KeyedRow.ofRow_mapValues (table : Table) (row : Row) :
    ofRow table (row.mapValues fill) = (ofRow table row).mapValues fill := by
  have split (belongs : String → Bool) :
      (mapEntries fill row.entries).filter (fun entry => belongs entry.1) =
        mapEntries fill (row.entries.filter fun entry => belongs entry.1) := List.filter_map
  show KeyedRow.mk _ _ _ = KeyedRow.mk _ _ _
  congr 1
  · exact split table.isPrimaryKey
  · exact split fun field => !table.isPrimaryKey field

theorem KeyedRow.hasKey_mapValues (row : KeyedRow) (primaryKey : List String) :
    (row.mapValues fill).hasKey primaryKey = row.hasKey primaryKey := by
  unfold hasKey
  congr 2
  funext field
  exact List.any_map

namespace MutationNode

theorem requireKey_mapValues (table : Table) (kind : RowWrite) (row : KeyedRow) :
    requireKey table kind (row.mapValues fill) = requireKey table kind row := by
  have none : (row.mapValues fill).others = [] ↔ row.others = [] := List.map_eq_nil_iff
  have names : (row.mapValues fill).others.map Prod.fst = row.others.map Prod.fst :=
    fst_mapEntries fill row.others
  simp only [requireKey, KeyedRow.hasKey_mapValues, none, names, ne_eq]

theorem rowWrite_mapValues (change : Value → Value) (table : Table) (kind : RowWrite) (row : Row) :
    rowWrite table kind (row.mapValues fill) =
      (rowWrite table kind row).map (Write.mapValues change fill) := by
  have empty : (row.mapValues fill).isEmpty = row.isEmpty := isEmpty_mapEntries _ _
  unfold rowWrite
  rw [empty, Row.fields_mapValues, KeyedRow.ofRow_mapValues]
  split
  · rfl
  · refine bind_commutes fun _ => ?_
    show (requireKey table kind ((KeyedRow.ofRow table row).mapValues fill) >>= _) = _
    rw [requireKey_mapValues]
    exact bind_commutes fun _ => rfl

/-- **With other values a node has the same writes**, up to these, or the same offence. -/
theorem writes_mapValues (keeps : KeepsNull change) (node : MutationNode) :
    (node.mapValues change fill).writes =
      node.writes.map (List.map (Write.mapValues change fill)) := by
  obtain ⟨table, op⟩ := node
  cases op with
  | rows kind list => exact mapM_commutes list (rowWrite_mapValues fill change table kind)
  | setUpdate assignments filter =>
    have empty : (assignments.mapValues fill).isEmpty = assignments.isEmpty :=
      isEmpty_mapEntries _ _
    simp only [MutationNode.writes, MutationNode.mapValues, MutationOp.mapValues, empty,
      Row.fields_mapValues, Filter.compile_mapValues keeps]
    split
    · rfl
    · exact bind_commutes fun _ => map_bind_commutes fun _ => rfl
  | setDelete filter =>
    simp only [MutationNode.writes, MutationNode.mapValues, MutationOp.mapValues,
      Filter.compile_mapValues keeps]
    exact map_bind_commutes fun _ => rfl
  | setInsert columns source =>
    simp only [MutationNode.writes, MutationNode.mapValues, MutationOp.mapValues,
      Query.compile_mapValues keeps]
    exact bind_commutes fun _ => map_bind_commutes fun _ => rfl

end MutationNode

end

/-! ### Without values -/

/-- What stands in place of every value. -/
def Value.erased (_ : Value) : Value := .null

namespace Sql

/-- A binding without its values: how many there are, in how many rows. -/
def Binding.blank : Binding → Binding
  | .values params => .values (params.map Value.erased)
  | .rows list => .rows (list.map (List.map Value.erased))

/-- A statement without its values. -/
def Statement.blank (statement : Statement) : Statement := ⟨statement.sql, statement.binding.blank⟩

/-- Other values leave nothing behind when values are taken away. -/
theorem Fragment.erased_mapValues (change : Value → Value) (fragment : Fragment) :
    (fragment.mapValues change).mapValues Value.erased = fragment.mapValues Value.erased := by
  rw [mapValues, mapValues, List.map_map]
  refine List.map_congr_left fun piece _ => ?_
  cases piece <;> rfl

theorem Statement.blank_ofFragment (fragment : Fragment) :
    (ofFragment fragment).blank = ofFragment (fragment.mapValues Value.erased) := by
  rw [ofFragment, ofFragment, Fragment.text_mapValues, Fragment.params_mapValues]
  rfl

end Sql

/-- A plan of a table without its values. -/
def TablePlan.blank (plan : TablePlan) : TablePlan :=
  ⟨plan.table, plan.needsSeparate, plan.statements.map Statement.blank⟩

/-- A plan without its values. -/
def Plan.blank (plan : Plan) : Plan := ⟨plan.tables.map TablePlan.blank⟩

namespace Write

/-! ### The statement of a write -/

section

variable (fill : Value → Value) (table : String)

/-- Without its values, an assignment has its columns. -/
theorem erased_assignments (column : String → Fragment) (entries : List (String × Value)) :
    (assignments column entries).mapValues Value.erased =
      Fragment.join ", " ((entries.map Prod.fst).map fun field =>
        (column field).mapValues Value.erased ++ [.word " = ", .slot .null]) := by
  rw [assignments, Fragment.mapValues_join, List.map_map, List.map_map]
  congr 2
  funext entry
  exact Fragment.mapValues_append _ _ _

/-- Without its values, the match of a key has its columns. -/
theorem erased_keyMatch (key : List (String × Value)) :
    (keyMatch table key).mapValues Value.erased =
      Fragment.join " AND " ((key.map Prod.fst).map fun field =>
        (ColumnName.mk table field).fragment ++ [.word " = ", .slot .null]) := by
  rw [keyMatch, Fragment.mapValues_join, List.map_map, List.map_map]
  rfl

theorem erased_tuple (values : List Value) :
    (tuple values).mapValues Value.erased = tuple (values.map Value.erased) := by
  rw [tuple, Fragment.mapValues_parenthesized, Fragment.mapValues_join, List.map_map, tuple,
    List.map_map]
  rfl

theorem onDuplicate_mapValues (kind : RowWrite) (row : KeyedRow) :
    onDuplicate table kind (row.mapValues fill) = onDuplicate table kind row := by
  simp only [onDuplicate, updated, KeyedRow.mapValues, isEmpty_mapEntries, fst_mapEntries]

/-- An insertion goes by the fields of its row, and by what stands behind `VALUES`. -/
theorem insertion_mapValues (kind : RowWrite) (row : KeyedRow) (values : Fragment) :
    insertion table kind (row.mapValues fill) values = insertion table kind row values := by
  rw [insertion, insertion, KeyedRow.fields_mapValues, onDuplicate_mapValues]

theorem erased_values (row : KeyedRow) :
    (row.mapValues fill).values.map Value.erased = row.values.map Value.erased := by
  rw [KeyedRow.values, KeyedRow.values, KeyedRow.mapValues, mapEntries, List.map_map, List.map_map,
    List.map_map]
  rfl

theorem erased_rowFragment (kind : RowWrite) (row : KeyedRow) :
    (rowFragment table kind (row.mapValues fill)).mapValues Value.erased =
      (rowFragment table kind row).mapValues Value.erased := by
  have inserted (kind : RowWrite) :
      (insertion table kind (row.mapValues fill) (tuple (row.mapValues fill).values)).mapValues
        Value.erased = (insertion table kind row (tuple row.values)).mapValues Value.erased := by
    rw [insertion_mapValues]
    simp only [insertion, Fragment.mapValues_append, erased_tuple, erased_values]
  cases kind with
  | insert | upsert | addUpsert => exact inserted _
  | update =>
    simp only [rowFragment, KeyedRow.mapValues, Fragment.mapValues_append, erased_assignments,
      erased_keyMatch, fst_mapEntries]
  | delete =>
    simp only [rowFragment, KeyedRow.mapValues, Fragment.mapValues_append, erased_keyMatch,
      fst_mapEntries]

/-- **The statement of a write goes by everything but its values.** -/
theorem blank_statement (change : Value → Value) (write : Write) :
    (statement table (write.mapValues change fill)).blank = (statement table write).blank := by
  rw [statement, Statement.blank_ofFragment, statement, Statement.blank_ofFragment]
  congr 1
  cases write with
  | row kind keyed => exact erased_rowFragment fill table kind keyed
  | update entries clauses =>
    simp only [fragment, mapValues, Fragment.mapValues_append, erased_assignments, fst_mapEntries,
      Clause.whereFragment_mapClauses, Fragment.erased_mapValues]
  | delete clauses =>
    simp only [fragment, mapValues, Fragment.mapValues_append, Clause.whereFragment_mapClauses,
      Fragment.erased_mapValues]
  | insertSelect columns source =>
    simp only [fragment, mapValues, Fragment.mapValues_append, Select.fragment_mapValues,
      Fragment.erased_mapValues]

end

end Write

end SqlCraft
