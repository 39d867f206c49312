/-
**The SQL that defines a table.**

* `Table.createSql` — the columns in order, the primary key, then indexes and unique keys;
* `Table.dropSql`, `Table.dropIfExistsSql`;
* `Table.createForeignKeySqls`, `Table.dropForeignKeySqls` — one statement per foreign key, apart
  from the table's own definition, so that the tables may refer to each other.
-/

import SqlCraft.Numeric.FloatText
import SqlCraft.Sql.Identifier
import SqlCraft.Table.KeyGroup

namespace SqlCraft

/-- A string literal: the text between single quotes, with every single quote in it doubled. -/
def Sql.stringLiteral (text : String) : String :=
  String.ofList ('\'' :: (text.toList.flatMap fun c => if c = '\'' then ['\'', '\''] else [c])
    ++ ['\''])

/-- A default as it stands behind `DEFAULT`. -/
def DefaultValue.sql : DefaultValue → String
  | .null => "NULL"
  | .bool value => if value then "1" else "0"
  | .integer value => toString value.toInt
  | .float value => Numeric.FloatStyle.sql.text value
  | .string value => Sql.stringLiteral value
  | .expression sql => sql

namespace Column

/-- The comment of a column in SQL: a boolean column says what it is. -/
def sqlComment? (column : Column) : Option String :=
  match column.comment, column.boolean with
  | some comment, true => some ("boolean value " ++ comment)
  | none, true => some "boolean value"
  | comment, false => comment

/-- The default in SQL; an auto-increment column has none. -/
def sqlDefault? (column : Column) : Option DefaultValue :=
  if column.autoIncrement then none else column.defaultValue

/-- The definition of a column. -/
def sql (column : Column) : String :=
  Sql.quote column.name ++ " " ++ column.type.name
    ++ (match column.size with
      | some size => "(" ++ toString size.toNat ++ ")"
      | none => "")
    ++ (if column.unsigned then " UNSIGNED" else "")
    ++ (if column.notNull then " NOT NULL" else "")
    ++ (if column.autoIncrement then " AUTO_INCREMENT" else "")
    ++ (match column.sqlDefault? with
      | some value => " DEFAULT " ++ value.sql
      | none => "")
    ++ (match column.sqlComment? with
      | some comment => " COMMENT " ++ Sql.stringLiteral comment
      | none => "")

end Column

namespace Table

/-- The name of a key: its kind, the table and the columns, with low lines between them. -/
def keyName (table : Table) (kind : KeyKind) (columns : List String) : String :=
  kind.label ++ "_" ++ table.name ++ "_" ++ String.intercalate "_" columns

/-- The clause of a key. -/
def keySql (table : Table) (kind : KeyKind) (columns : List String) : String :=
  kind.keyword ++ " " ++ Sql.quote (table.keyName kind columns) ++
    " (" ++ Sql.quoteList columns ++ ")"

/-- The clause of the primary key, if the table has one. -/
def primaryKeySql (table : Table) : List String :=
  if table.primaryKey.isEmpty then []
  else ["PRIMARY KEY (" ++ Sql.quoteList table.primaryKey ++ ")"]

/-- The lines between the brackets of a table's definition. -/
def definitionLines (table : Table) : List String :=
  table.columns.map Column.sql ++ table.primaryKeySql ++
    [KeyKind.index, KeyKind.unique].flatMap fun kind => (table.keys kind).map (table.keySql kind)

/-- The statement that creates the table, without its foreign keys. -/
def createSql (table : Table) : String :=
  "CREATE TABLE " ++ Sql.quote table.name ++ " (\n  " ++
    String.intercalate ",\n  " table.definitionLines ++ "\n)"

/-- The statement that drops the table. -/
def dropSql (table : Table) : String := "DROP TABLE " ++ Sql.quote table.name

/-- The statement that drops the table if there is one. -/
def dropIfExistsSql (table : Table) : String := "DROP TABLE IF EXISTS " ++ Sql.quote table.name

/-- The statement that adds a foreign key to the table of the given name. -/
def addForeignKeySql (holder column : String) (key : ForeignKey) : String :=
  "ALTER TABLE " ++ Sql.quote holder ++ " ADD CONSTRAINT " ++
    Sql.quote (key.constraintOn holder) ++ " FOREIGN KEY (" ++ Sql.quote column ++
    ") REFERENCES " ++ Sql.quote key.table ++ " (" ++ Sql.quote key.field ++ ")"
    ++ (match key.onDelete with
      | some action => " ON DELETE " ++ action.keywords
      | none => "")
    ++ (match key.onUpdate with
      | some action => " ON UPDATE " ++ action.keywords
      | none => "")

/-- The statement that drops a foreign key from the table of the given name. -/
def dropForeignKeySql (holder : String) (key : ForeignKey) : String :=
  "ALTER TABLE " ++ Sql.quote holder ++ " DROP CONSTRAINT " ++ Sql.quote (key.constraintOn holder)

/-- The statements that add the table's foreign keys, in column order. -/
def createForeignKeySqls (table : Table) : List String :=
  table.foreignKeys.map fun (column, key) => addForeignKeySql table.name column key

/-- The statements that drop the table's foreign keys, in column order. -/
def dropForeignKeySqls (table : Table) : List String :=
  table.foreignKeys.map fun (_, key) => dropForeignKeySql table.name key

end Table

end SqlCraft
