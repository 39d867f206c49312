/-
**Why a table is unsound or a description cannot be turned into SQL.**

Each error is a cause with the names involved; `CompileError.message` is its wording.
-/

import SqlCraft.Sql.Comparison
import SqlCraft.Sql.Identifier
import SqlCraft.Table.Basic

namespace SqlCraft

/-- What is wrong with a table. -/
inductive TableFlaw where
  | unnamed
  | withoutColumns
  | repeatedColumn (name : String)
  | needsNumericType (name : String) (type : ColumnType)
  | booleanType (name : String) (type : ColumnType)
  | foreignKeyWithoutTarget (name : String)
  | unknownPartner (name partner : String)
deriving DecidableEq, Repr

/-- The wording of a flaw. -/
def TableFlaw.message : TableFlaw → String
  | .unnamed => "table name is empty"
  | .withoutColumns => "table declares no fields"
  | .repeatedColumn name => s!"field `{name}` is declared twice"
  | .needsNumericType name type =>
    s!"`{name}` is {type.name} but UNSIGNED/AUTO_INCREMENT need a numeric type"
  | .booleanType name type => s!"boolean field `{name}` must be TINYINT, not {type.name}"
  | .foreignKeyWithoutTarget name => s!"foreign key on `{name}` has no target"
  | .unknownPartner name partner => s!"`{name}` groups with unknown field `{partner}`"

/-- What is wrong with the shape of a filter, query or mutation. -/
inductive DescriptorFlaw where
  | emptyGroup (joiner : Sql.Joiner) (table : String)
  | emptyMember (joiner : Sql.Joiner) (table : String)
  | noOperator (table field : String)
  | pagedInclude (table : String)
  | selectWithAggregate (table : String)
  | emptyRow (table : String)
  | nothingToUpdate (table : String)
  | deleteBeyondKey (table : String) (fields : List String)
  | nothingToSet (table : String)
deriving DecidableEq, Repr

/-- The wording of a flaw. -/
def DescriptorFlaw.message : DescriptorFlaw → String
  | .emptyGroup joiner table => s!"empty {joiner.keyword} group on `{table}`"
  | .emptyMember joiner table => s!"empty filter inside {joiner.keyword} group on `{table}`"
  | .noOperator table field => "no operator given for " ++ Sql.qualified table field
  | .pagedInclude table =>
    s!"skip/take on included table `{table}`; page the outermost query instead"
  | .selectWithAggregate table => s!"select and aggregate are mutually exclusive on `{table}`"
  | .emptyRow table => s!"empty row for `{table}`"
  | .nothingToUpdate table => s!"UPDATE row for `{table}` has no column to set"
  | .deleteBeyondKey table fields =>
    s!"DELETE row for `{table}` carries non-key fields: " ++ String.intercalate ", " fields
  | .nothingToSet table => s!"SET_UPDATE on `{table}` assigns no columns"

/-- Why a table or a description is refused. -/
inductive CompileError where
  /-- An operator that orders was given null. -/
  | nullOrdering (table field : String) (operator : Sql.Operator)
  /-- The table declares no such column. -/
  | unknownField (table field : String)
  /-- A row to update or delete does not have the whole primary key. -/
  | incompleteKey (table : String)
  /-- No foreign key links an included table to the one that includes it. -/
  | unrelated (parent child : String)
  /-- The description has no sound shape. -/
  | descriptor (flaw : DescriptorFlaw)
  /-- The table itself is unsound. -/
  | unsound (table : String) (flaw : TableFlaw)
deriving DecidableEq, Repr

/-- The wording of an error. -/
def CompileError.message : CompileError → String
  | .nullOrdering table field operator =>
    s!"null value is only allowed with 'equal' or 'not' (got '{operator.name}' on " ++
      s!"`{table}`.`{field}`)"
  | .unknownField table field => s!"table `{table}` has no field `{field}`"
  | .incompleteKey table => s!"table `{table}` requires every primary-key field to match a row"
  | .unrelated parent child => s!"no foreign key links `{child}` to `{parent}`"
  | .descriptor flaw => "invalid descriptor: " ++ flaw.message
  | .unsound table flaw => s!"invalid schema for `{table}`: " ++ flaw.message

/-- The result of a step that may refuse its input. -/
abbrev Compiled (α : Type) := Except CompileError α

/-- Refuses a field that the table does not declare. -/
def Table.require (table : Table) (field : String) : Compiled Unit :=
  if table.declares field then .ok () else .error (.unknownField table.name field)

end SqlCraft
