/-
**Writes: the single steps of a mutation.**

A node of a mutation makes one write per data row, or one write in all if it is scoped by a filter
or fed by a query. A data row must not be empty and may only name declared fields; to update or
delete, it must have the whole primary key, and some other field to update or none to delete.

* `MutationNode.writes` — the writes of a node, or its first offence;
* `Write.fragment` — a write in SQL;
* `Write.batch?` — the same for a tuple of values, as a batch of one row.
-/

import SqlCraft.Mutation.Basic
import SqlCraft.Query.Select

namespace SqlCraft

open Sql (ColumnName Fragment Statement)

/-- A data row, split into the fields of the primary key and the others. -/
structure KeyedRow where
  entries : List (String × Value)
  key : List (String × Value)
  others : List (String × Value)
deriving DecidableEq

namespace KeyedRow

/-- The split of a row of a table. -/
def ofRow (table : Table) (row : Row) : KeyedRow where
  entries := row.entries
  key := row.entries.filter fun entry => table.isPrimaryKey entry.1
  others := row.entries.filter fun entry => !table.isPrimaryKey entry.1

/-- The fields, in order. -/
def fields (row : KeyedRow) : List String := row.entries.map Prod.fst

/-- The values, in order. -/
def values (row : KeyedRow) : List Value := row.entries.map Prod.snd

/-- Whether the row has every field of a primary key, and there is one. -/
def hasKey (row : KeyedRow) (primaryKey : List String) : Bool :=
  !primaryKey.isEmpty && primaryKey.all fun field => row.key.any fun entry => entry.1 == field

end KeyedRow

/-- A single write to a table. -/
inductive Write where
  | row (kind : RowWrite) (row : KeyedRow)
  | update (assignments : List (String × Value)) (clauses : List Clause)
  | delete (clauses : List Clause)
  | insertSelect (columns : List String) (source : Select)

/-! ### The writes of a node -/

namespace MutationNode

/-- Refuses a row that cannot be matched by its key, or has nothing to update, or too much to
delete. -/
def requireKey (table : Table) (kind : RowWrite) (row : KeyedRow) : Compiled Unit :=
  if kind.insertsValues then .ok ()
  else if !row.hasKey table.primaryKey then .error (.incompleteKey table.name)
  else if kind = .update ∧ row.others = [] then .error (.descriptor (.nothingToUpdate table.name))
  else if kind = .delete ∧ row.others ≠ [] then
    .error (.descriptor (.deleteBeyondKey table.name (row.others.map Prod.fst)))
  else .ok ()

/-- The write of one row. -/
def rowWrite (table : Table) (kind : RowWrite) (row : Row) : Compiled Write := do
  if row.isEmpty then throw (.descriptor (.emptyRow table.name))
  row.fields.forM table.require
  let keyed := KeyedRow.ofRow table row
  requireKey table kind keyed
  return .row kind keyed

/-- The writes of a node, in order. -/
def writes (node : MutationNode) : Compiled (List Write) :=
  match node.op with
  | .rows kind rows => rows.mapM (rowWrite node.table kind)
  | .setUpdate assignments filter => do
    if assignments.isEmpty then throw (.descriptor (.nothingToSet node.table.name))
    assignments.fields.forM node.table.require
    let clauses ← filter.compile node.table
    return [.update assignments.entries clauses]
  | .setDelete filter => do
    let clauses ← filter.compile node.table
    return [.delete clauses]
  | .setInsert columns source => do
    columns.forM node.table.require
    let select ← Query.compile source
    return [.insertSelect (if columns.isEmpty then node.table.columnNames else columns) select]

end MutationNode

/-! ### SQL -/

namespace Write

/-- The name of the incoming row where it meets the stored one. -/
def incoming : String := "NEW_VAL"

/-- Assignments of values to columns. -/
def assignments (column : String → Fragment) (entries : List (String × Value)) : Fragment :=
  Fragment.join ", " (entries.map fun entry => column entry.1 ++ [.word " = ", .slot entry.2])

/-- The equality of key columns with their values. -/
def keyMatch (table : String) (key : List (String × Value)) : Fragment :=
  Fragment.join " AND " (key.map fun entry =>
    (ColumnName.mk table entry.1).fragment ++ [.word " = ", .slot entry.2])

/-- The fields that an upsert assigns to a stored row: those that are not key, or the key itself if
there are no others. -/
def updated (row : KeyedRow) : List String :=
  if row.others.isEmpty then row.key.map Prod.fst else row.others.map Prod.fst

/-- The assignment of one field of the incoming row to the stored one, which may be added. -/
def updateAssignment (table : String) (adds : Bool) (field : String) : Fragment :=
  let stored := (ColumnName.mk table field).fragment
  stored ++ [.word (" = " ++ incoming ++ "."), .identifier field] ++
    (if adds then .word " + " :: stored else [])

/-- What becomes of a stored row with the same key. A key is never added to itself. -/
def onDuplicate (table : String) (kind : RowWrite) (row : KeyedRow) : Fragment :=
  if kind = .upsert ∨ kind = .addUpsert then
    let adds := kind = .addUpsert && !row.others.isEmpty
    .word (" AS " ++ incoming ++ " ON DUPLICATE KEY UPDATE ") ::
      Fragment.join ", " ((updated row).map (updateAssignment table adds))
  else []

/-- The insertion of a row, with the given values behind `VALUES`. -/
def insertion (table : String) (kind : RowWrite) (row : KeyedRow) (values : Fragment) : Fragment :=
  [.word "INSERT INTO ", .identifier table, .word " ("] ++ Fragment.names row.fields ++
    [.word ") VALUES "] ++ values ++ onDuplicate table kind row

/-- A tuple of values. -/
def tuple (values : List Value) : Fragment :=
  Fragment.parenthesized (Fragment.join ", " (values.map fun value => [.slot value]))

/-- A write of one row in SQL. -/
def rowFragment (table : String) (kind : RowWrite) (row : KeyedRow) : Fragment :=
  match kind with
  | .update =>
    [.word "UPDATE ", .identifier table, .word " SET "] ++
      assignments (fun field => [.identifier field]) row.others ++ [.word " WHERE "] ++
      keyMatch table row.key
  | .delete =>
    [.word "DELETE FROM ", .identifier table, .word " WHERE "] ++ keyMatch table row.key
  | kind => insertion table kind row (tuple row.values)

/-- A write in SQL. -/
def fragment (table : String) : Write → Fragment
  | .row kind keyed => rowFragment table kind keyed
  | .update entries clauses =>
    [.word "UPDATE ", .identifier table, .word " SET "] ++
      assignments (fun field => (ColumnName.mk table field).fragment) entries ++
      Clause.whereFragment clauses
  | .delete clauses => [.word "DELETE FROM ", .identifier table] ++ Clause.whereFragment clauses
  | .insertSelect columns source =>
    [.word "INSERT INTO ", .identifier table, .word " ("] ++ Fragment.names columns ++
      [.word ") "] ++ source.fragment

/-- The statement of a write. -/
def statement (table : String) (write : Write) : Statement := .ofFragment (write.fragment table)

/-- The write as a batch of one row, if it inserts values. -/
def batch? (table : String) : Write → Option Statement
  | .row kind keyed =>
    if kind.insertsValues then
      some ⟨(insertion table kind keyed [.word "?"]).text, .rows [keyed.values]⟩
    else none
  | _ => none

end Write

end SqlCraft
