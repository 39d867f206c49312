/-
**Plans: the statements of a mutation, table by table.**

The nodes of a mutation are worked off in pre-order, and the writes to one table are gathered in
that order. Tables stand in the order in which nodes first name them; those without writes are left
out.

With batching, neighbouring insertions with the same text become one statement with many rows,
except in a table whose rows differ in their fields.

* `Mutation.gather` — the writes of each table;
* `Write.needSeparate` — whether two rows that follow each other differ in their fields;
* `Mutation.compile` — the plan of a mutation.
-/

import SqlCraft.Mutation.Write

namespace SqlCraft

open Sql (Statement)

/-- The statements for one table. -/
structure TablePlan where
  table : String
  /-- Whether the rows differ in their fields. -/
  needsSeparate : Bool
  statements : List Statement
deriving DecidableEq

/-- The statements of a mutation, table by table. -/
structure Plan where
  tables : List TablePlan
deriving DecidableEq

namespace Plan

/-- All statements, in order. -/
def statements (plan : Plan) : List Statement := plan.tables.flatMap TablePlan.statements

/-- The number of statements. -/
def statementCount (plan : Plan) : Nat := plan.statements.length

/-- Whether there is nothing to do. -/
def isEmpty (plan : Plan) : Bool := plan.statements.isEmpty

/-- Whether only a transaction makes the plan all or nothing. -/
def requiresTransaction (plan : Plan) : Bool := 1 < plan.statementCount

end Plan

/-! ### The statements of one table -/

namespace Write

/-- Whether two writes are rows with different fields, or with the same in another order. -/
def fieldsDiffer : Write → Write → Bool
  | .row _ first, .row _ second => first.fields != second.fields
  | _, _ => false

/-- Whether two rows that follow each other differ in their fields. -/
def needSeparate : List Write → Bool
  | first :: second :: rest => fieldsDiffer first second || needSeparate (second :: rest)
  | _ => false

/-- Neighbouring batches with one text made into one batch. -/
def mergeBatches : List Statement → List Statement
  | [] => []
  | statement :: rest =>
    match statement.binding, mergeBatches rest with
    | .rows rows, ⟨sql, .rows more⟩ :: others =>
      if statement.sql = sql then ⟨sql, .rows (rows ++ more)⟩ :: others
      else statement :: ⟨sql, .rows more⟩ :: others
    | _, merged => statement :: merged

/-- The statements of the writes to a table. -/
def statements (table : String) (batched : Bool) (writes : List Write) : List Statement :=
  if batched && !needSeparate writes then
    mergeBatches (writes.map fun write => (write.batch? table).getD (write.statement table))
  else writes.map (statement table)

/-- The plan of the writes to a table. -/
def tablePlan (batched : Bool) (table : String) (writes : List Write) : TablePlan :=
  ⟨table, needSeparate writes, statements table batched writes⟩

end Write

/-! ### The plan of a mutation -/

namespace Mutation

/-- The writes of each node in pre-order, with the name of its table. -/
def visitedWrites (mutation : Mutation) : Compiled (List (String × List Write)) :=
  mutation.preorder.mapM fun node => node.writes.map fun writes => (node.table.name, writes)

/-- The writes of each table, tables in the order of their first mention. -/
def gather (visited : List (String × List Write)) : List (String × List Write) :=
  let tables := (visited.map Prod.fst).eraseDups
  let gathered := tables.map fun table =>
    (table, (visited.filter fun entry => entry.1 == table).flatMap Prod.snd)
  gathered.filter fun entry => !entry.2.isEmpty

/-- The plan of a mutation, with or without batching. -/
def compile (mutation : Mutation) (batched : Bool) : Compiled Plan :=
  (visitedWrites mutation).map fun visited =>
    ⟨(gather visited).map fun entry => Write.tablePlan batched entry.1 entry.2⟩

end Mutation

end SqlCraft
