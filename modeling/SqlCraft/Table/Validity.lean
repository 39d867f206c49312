/-
**Sound tables.**

A table is sound if it has a name and columns, no two of one name; if only numeric columns are
unsigned or auto-increment and only `TINYINT` columns are booleans; if every foreign key names its
target; and if the columns that key markers name are other columns of the table.

* `Table.flaw?` — the first flaw: of the table, then of each column in order, then of the markers;
* `Table.validate` — refuses a table with a flaw.
-/

import SqlCraft.CompileError

namespace SqlCraft

/-- The first flaw of a column on its own. -/
def Column.flaw? (column : Column) : Option TableFlaw :=
  if (column.unsigned || column.autoIncrement) && !column.type.isNumeric then
    some (.needsNumericType column.name column.type)
  else if column.boolean && column.type != .tinyint then
    some (.booleanType column.name column.type)
  else if column.foreignKey.any fun key => key.table.isEmpty || key.field.isEmpty then
    some (.foreignKeyWithoutTarget column.name)
  else none

/-- The markers of a column: unique first, then index. -/
def Column.markers (column : Column) : List KeyMarker :=
  column.unique.toList ++ column.index.toList

namespace Table

/-- The first flaw of columns declared behind those named `earlier`. -/
def declarationFlaw? (earlier : List String) : List Column → Option TableFlaw
  | [] => none
  | column :: rest =>
    if earlier.contains column.name then some (.repeatedColumn column.name)
    else column.flaw? <|> declarationFlaw? (column.name :: earlier) rest

/-- The first partner of a column's markers that is the column itself or not declared. -/
def partnerFlaw? (table : Table) (column : Column) : Option TableFlaw :=
  (column.markers.flatMap KeyMarker.partners).find?
    (fun partner => partner == column.name || !table.declares partner)
    |>.map (.unknownPartner column.name)

/-- The first flaw of a table. -/
def flaw? (table : Table) : Option TableFlaw :=
  if table.name.isEmpty then some .unnamed
  else if table.columns.isEmpty then some .withoutColumns
  else declarationFlaw? [] table.columns <|> table.columns.findSome? table.partnerFlaw?

/-- Refuses a table with a flaw. -/
def validate (table : Table) : Compiled Unit :=
  match table.flaw? with
  | some flaw => .error (.unsound table.name flaw)
  | none => .ok ()

/-- Refuses tables of which one has a flaw, for the first such table. -/
def validateAll (tables : List Table) : Compiled Unit := tables.forM validate

end Table

end SqlCraft
