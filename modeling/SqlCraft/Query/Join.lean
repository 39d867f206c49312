/-
**Joins: how an included table is linked to the table above it.**

A link equates the two ends of a foreign key that one of the tables holds on the other. Links are
collected in the order of the included table's columns; at each column its own key to the table
above comes before the keys of the table above to that column, which keep their order.

* `Join.links` — the links of two tables;
* `Join.choose` — the link through the foreign key that the include's key names, else the first.
-/

import SqlCraft.CompileError
import SqlCraft.Sql.Fragment

namespace SqlCraft

open Sql (ColumnName Fragment)

/-- A table joined to those before it: on the equality of two columns. -/
structure Join where
  table : String
  left : ColumnName
  right : ColumnName
deriving DecidableEq, Repr

namespace Join

/-- The join in SQL. -/
def fragment (join : Join) : Fragment :=
  [.word "LEFT JOIN ", .identifier join.table, .word " ON "] ++ join.left.fragment ++
    [.word " = "] ++ join.right.fragment

/-- A possible join, and the field of the table above whose foreign key it follows, if it does. -/
structure Link where
  via : Option String
  join : Join
deriving DecidableEq, Repr

/-- The link through a column's own foreign key to the table above. -/
def ownLink (parent child : Table) (column : Column) : List Link :=
  match column.foreignKey with
  | some key =>
    if key.table = parent.name then
      [⟨none, child.name, ⟨key.table, key.field⟩, ⟨child.name, column.name⟩⟩]
    else []
  | none => []

/-- The links through foreign keys of the table above to a column. -/
def parentLinks (parent child : Table) (column : Column) : List Link :=
  parent.foreignKeys.filterMap fun (field, key) =>
    if key.table = child.name ∧ key.field = column.name then
      some ⟨some field, child.name, ⟨child.name, column.name⟩, ⟨parent.name, field⟩⟩
    else none

/-- The links of an included table to the table above. -/
def links (parent child : Table) : List Link :=
  child.columns.flatMap fun column =>
    ownLink parent child column ++ parentLinks parent child column

/-- The join of a table included under a key. -/
def choose (parent child : Table) (key : String) : Compiled Join :=
  let links := links parent child
  match links.find? (fun link => link.via == some key) <|> links.head? with
  | some link => .ok link.join
  | none => .error (.unrelated parent.name child.name)

end Join

end SqlCraft
