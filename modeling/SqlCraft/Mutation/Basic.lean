/-
**Mutations: what is written to a table and the tables related to it.**

A mutation is a tree. Each node writes to one table: it inserts, updates or deletes rows one by one,
changes or deletes all rows that a filter lets pass, or inserts what a query finds. Children are
worked off after their node.
-/

import SqlCraft.Filter.Basic
import SqlCraft.Query.Basic
import SqlCraft.Row

namespace SqlCraft

/-- What is done with a row. -/
inductive RowWrite where
  | insert
  /-- Changes the row with the same primary key. -/
  | update
  /-- Inserts, or overwrites what is not key. -/
  | upsert
  /-- Inserts, or adds to what is not key. -/
  | addUpsert
  /-- Deletes the row with the same primary key. -/
  | delete
deriving DecidableEq, Repr

/-- Whether the row is written as a tuple of values. -/
def RowWrite.insertsValues : RowWrite → Bool
  | .insert | .upsert | .addUpsert => true
  | .update | .delete => false

/-- What a node does. -/
inductive MutationOp where
  | rows (kind : RowWrite) (rows : List Row)
  /-- Changes fields of every row that passes the filter. -/
  | setUpdate (assignments : Row) (filter : Filter)
  /-- Deletes every row that passes the filter. -/
  | setDelete (filter : Filter)
  /-- Inserts the rows of a query; without columns, into all of them. -/
  | setInsert (columns : List String) (source : Query)

/-- What is written to one table. -/
structure MutationNode where
  table : Table
  op : MutationOp

/-- A mutation of a table and of the tables it includes. -/
abbrev Mutation := Tree MutationNode

/-- The mutation of one table. -/
def Mutation.ofTable (table : Table) (op : MutationOp) : Mutation := .node ⟨table, op⟩ []

end SqlCraft
