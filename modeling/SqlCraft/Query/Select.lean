/-
**Selects: queries compiled into one statement.**

Every node of a query contributes a part: what it shows, its clauses, its join and its order. The
parts are made in pre-order, and the first offence on the way is the error. From the first node with
aggregates on, nodes without aggregates show nothing.

* `QueryNode.part` — the part of one node;
* `Query.compile` — the select that the parts make up;
* `Select.fragment` — the select in SQL.
-/

import SqlCraft.Filter.Clause
import SqlCraft.Query.Basic
import SqlCraft.Query.Join
import SqlCraft.Sql.Statement

namespace SqlCraft

open Sql (ColumnName Fragment)

/-- Something that a select shows. -/
inductive Projection where
  | column (name : ColumnName)
  /-- A function of a column, or of whole rows, under a label. -/
  | aggregate (function : AggregateFunction) (operand : Option ColumnName) (label : String)
deriving DecidableEq, Repr

/-- A projection in SQL. -/
def Projection.fragment : Projection → Fragment
  | .column name => name.fragment
  | .aggregate function operand label =>
    [.word (function.name ++ "(")] ++
      (match operand with
        | some name => name.fragment
        | none => [.word "*"]) ++
      [.word ") AS ", .identifier label]

/-- A column to sort by. -/
structure SortKey where
  column : ColumnName
  direction : Direction
deriving DecidableEq, Repr

/-- A sort key in SQL. -/
def SortKey.fragment (key : SortKey) : Fragment :=
  key.column.fragment ++ [.word (" " ++ key.direction.keyword)]

/-- A select: what is shown, the tables, the clauses, the order and the page. -/
structure Select where
  projections : List Projection
  table : String
  joins : List Join
  clauses : List Clause
  order : List SortKey
  take : Option Nat
  skip : Option Nat

/-! ### The part of one node -/

/-- What one node of a query contributes to the select. -/
structure SelectPart where
  projections : List Projection
  clauses : List Clause
  join : Option Join
  order : List SortKey

namespace QueryNode

/-- A declared field as a column. -/
def columnOf (node : QueryNode) (field : String) : Compiled ColumnName := do
  node.table.require field
  return ⟨node.table.name, field⟩

/-- An aggregate over a declared field. -/
def aggregateProjection (node : QueryNode) (aggregate : Aggregate) : Compiled Projection :=
  match aggregate.field with
  | some field =>
    (node.columnOf field).map fun name => .aggregate aggregate.function (some name) aggregate.label
  | none => .ok (.aggregate aggregate.function none aggregate.label)

/-- What the node shows: its aggregates if it has any, else, if there were none before it, the
fields it selects or all fields. -/
def projections (node : QueryNode) (aggregated : Bool) : Compiled (List Projection) :=
  if !node.aggregates.isEmpty then node.aggregates.mapM node.aggregateProjection
  else if aggregated then .ok []
  else match node.select with
    | some fields => fields.mapM fun field => (node.columnOf field).map .column
    | none => .ok (node.table.columnNames.map fun field => .column ⟨node.table.name, field⟩)

/-- A sort key on a declared field. -/
def sortKey (node : QueryNode) (entry : String × Direction) : Compiled SortKey :=
  (node.columnOf entry.1).map fun column => ⟨column, entry.2⟩

/-- The join of the node to the one above it. -/
def join? (node : QueryNode) : Option (String × QueryNode) → Compiled (Option Join)
  | none => .ok none
  | some (key, parent) => (Join.choose parent.table node.table key).map some

/-- The part of a node that is reached in the given way, behind nodes of which some have aggregates
or not. -/
def part (node : QueryNode) (above : Option (String × QueryNode)) (aggregated : Bool) :
    Compiled SelectPart := do
  if above.isSome && node.isPaged then
    throw (.descriptor (.pagedInclude node.table.name))
  if node.select.isSome && !node.aggregates.isEmpty then
    throw (.descriptor (.selectWithAggregate node.table.name))
  let projections ← node.projections aggregated
  let clauses ← node.filter.compile node.table
  let join ← node.join? above
  let order ← node.orderBy.mapM node.sortKey
  return ⟨projections, clauses, join, order⟩

end QueryNode

/-! ### The select -/

namespace Query

/-- The parts of visited nodes, behind nodes of which some have aggregates or not. -/
def parts (aggregated : Bool) : List (Tree.Visit QueryNode) → Compiled (List SelectPart)
  | [] => .ok []
  | visit :: rest => do
    let part ← visit.label.part visit.above aggregated
    return part :: (← parts (aggregated || !visit.label.aggregates.isEmpty) rest)

/-- The select that parts make up for the root of a query. -/
def assemble (root : QueryNode) (parts : List SelectPart) : Select where
  projections := parts.flatMap SelectPart.projections
  table := root.table.name
  joins := parts.filterMap SelectPart.join
  clauses := parts.flatMap SelectPart.clauses
  order := parts.flatMap SelectPart.order
  take := root.take
  skip := root.skip

/-- The select of a query. -/
def compile (query : Query) : Compiled Select :=
  (parts false query.visits).map (assemble query.label)

end Query

/-! ### SQL -/

namespace Select

/-- The largest number of rows that a limit can name. -/
def maxLimit : Nat := UInt64.size - 1

/-- The page in SQL. Rows can only be skipped below a limit. -/
def pageFragment : (take skip : Option Nat) → Fragment
  | some take, some skip => [.word s!" LIMIT {take} OFFSET {skip}"]
  | some take, none => [.word s!" LIMIT {take}"]
  | none, some skip => [.word s!" LIMIT {maxLimit} OFFSET {skip}"]
  | none, none => []

/-- The select in SQL. -/
def fragment (select : Select) : Fragment :=
  .word "SELECT " ::
    (if select.projections.isEmpty then [.word "*"]
      else Fragment.join ", " (select.projections.map Projection.fragment)) ++
    [.word " FROM ", .identifier select.table] ++
    (select.joins.flatMap fun join => .word " " :: join.fragment) ++
    Clause.whereFragment select.clauses ++
    (if select.order.isEmpty then []
      else .word " ORDER BY " :: Fragment.join ", " (select.order.map SortKey.fragment)) ++
    pageFragment select.take select.skip

end Select

/-- The SQL of a query with its values. -/
def Query.build (query : Query) : Compiled Sql.BoundText :=
  (Query.compile query).map fun select => select.fragment.bound

end SqlCraft
