/-
**Queries: what is read from a table and the tables related to it.**

A query is a tree. Each node describes what is wanted of one table: its filter, the fields or
aggregates to show, and the order. A child is a related table, included under a key that may name
the foreign key to it. Only the root may skip or limit rows.
-/

import SqlCraft.Filter.Basic
import SqlCraft.Table.Basic
import SqlCraft.Tree

namespace SqlCraft

/-- A direction of sorting. -/
inductive Direction where
  | asc
  | desc
deriving DecidableEq, Repr

/-- The keyword of a direction. -/
def Direction.keyword : Direction → String
  | .asc => "ASC"
  | .desc => "DESC"

/-- A function of many rows. -/
inductive AggregateFunction where
  | count
  | max
  | min
  | sum
  | avg
deriving DecidableEq, Repr

/-- The SQL name of a function. -/
def AggregateFunction.name : AggregateFunction → String
  | .count => "COUNT"
  | .max => "MAX"
  | .min => "MIN"
  | .sum => "SUM"
  | .avg => "AVG"

/-- An aggregate to show: of a field, or of whole rows. -/
structure Aggregate where
  function : AggregateFunction
  field : Option String
  label : String
deriving DecidableEq, Repr

/-- What a query wants of one table. -/
structure QueryNode where
  table : Table
  filter : Filter := []
  /-- The fields to show; all fields of the table if none are given. -/
  select : Option (List String) := none
  aggregates : List Aggregate := []
  orderBy : List (String × Direction) := []
  skip : Option Nat := none
  take : Option Nat := none

/-- Whether rows are skipped or limited. -/
def QueryNode.isPaged (node : QueryNode) : Bool := node.skip.isSome || node.take.isSome

/-- A query over a table and the tables it includes. -/
abbrev Query := Tree QueryNode

namespace Query

/-- The query for every field of every row of a table. -/
def ofTable (table : Table) : Query := .node { table } []

/-- The query with its root changed. -/
def adjust (query : Query) (change : QueryNode → QueryNode) : Query :=
  query.withLabel (change query.label)

/-- The query with a filter in place of the one it has. -/
def filter (query : Query) (filter : Filter) : Query := query.adjust ({ · with filter })

/-- The query for some fields only. -/
def select (query : Query) (fields : List String) : Query :=
  query.adjust ({ · with select := some fields })

/-- The query with one more aggregate. -/
def aggregate (query : Query) (aggregate : Aggregate) : Query :=
  query.adjust fun node => { node with aggregates := node.aggregates ++ [aggregate] }

/-- The query with one more field to sort by. -/
def orderBy (query : Query) (field : String) (direction : Direction) : Query :=
  query.adjust fun node => { node with orderBy := node.orderBy ++ [(field, direction)] }

/-- The query that leaves out the first rows. -/
def skip (query : Query) (count : Nat) : Query := query.adjust ({ · with skip := some count })

/-- The query for a limited number of rows. -/
def take (query : Query) (count : Nat) : Query := query.adjust ({ · with take := some count })

end Query

end SqlCraft
