/-
**Tables: what a schema declares.**

A table is a name and its columns in order. A column carries its type, its key markers, at most one
foreign key, a default and a comment. Nothing here is checked; `Table/Validity` says what makes a
table sound.

Two tables are compared with `==`, in which float defaults compare as numbers: a default that is not
a number differs from itself, and the two zeros are equal.
-/

namespace SqlCraft

/-- The types a column can have. -/
inductive ColumnType where
  | tinyint
  | smallint
  | mediumint
  | int
  | bigint
  | decimal
  | float
  | double
  | char
  | varchar
  | tinytext
  | text
  | mediumtext
  | longtext
  | date
  | time
  | datetime
  | timestamp
  | year
  | json
deriving DecidableEq, Repr

namespace ColumnType

/-- All column types, in order. -/
def all : List ColumnType :=
  [.tinyint, .smallint, .mediumint, .int, .bigint, .decimal, .float, .double, .char, .varchar,
    .tinytext, .text, .mediumtext, .longtext, .date, .time, .datetime, .timestamp, .year, .json]

/-- The SQL name of the type. -/
def name : ColumnType → String
  | .tinyint => "TINYINT"
  | .smallint => "SMALLINT"
  | .mediumint => "MEDIUMINT"
  | .int => "INT"
  | .bigint => "BIGINT"
  | .decimal => "DECIMAL"
  | .float => "FLOAT"
  | .double => "DOUBLE"
  | .char => "CHAR"
  | .varchar => "VARCHAR"
  | .tinytext => "TINYTEXT"
  | .text => "TEXT"
  | .mediumtext => "MEDIUMTEXT"
  | .longtext => "LONGTEXT"
  | .date => "DATE"
  | .time => "TIME"
  | .datetime => "DATETIME"
  | .timestamp => "TIMESTAMP"
  | .year => "YEAR"
  | .json => "JSON"

/-- Whether the type holds numbers. -/
def isNumeric : ColumnType → Bool
  | .tinyint | .smallint | .mediumint | .int | .bigint | .decimal | .float | .double => true
  | _ => false

end ColumnType

/-- The default of a column. -/
inductive DefaultValue where
  | null
  | bool (value : Bool)
  | integer (value : Int64)
  | float (value : Float)
  | string (value : String)
  /-- An SQL expression, written as it is. -/
  | expression (sql : String)
deriving BEq

/-- What happens to a row when the row it refers to is deleted or updated. -/
inductive ReferentialAction where
  | noAction
  | restrict
  | cascade
  | setNull
  | setDefault
deriving DecidableEq, Repr

/-- The SQL keywords of an action. -/
def ReferentialAction.keywords : ReferentialAction → String
  | .noAction => "NO ACTION"
  | .restrict => "RESTRICT"
  | .cascade => "CASCADE"
  | .setNull => "SET NULL"
  | .setDefault => "SET DEFAULT"

/-- A foreign key of one column: the column of the parent table that it refers to. -/
structure ForeignKey where
  table : String
  field : String
  constraintName : Option String := none
  onDelete : Option ReferentialAction := none
  onUpdate : Option ReferentialAction := none
deriving DecidableEq, Repr

/-- The name of the constraint when the key is held by the given table. -/
def ForeignKey.constraintOn (key : ForeignKey) (holder : String) : String :=
  key.constraintName.getD ("fk_" ++ key.table ++ "_" ++ holder ++ "_" ++ key.field)

/-- How a column takes part in an index or a unique key. -/
inductive KeyMarker where
  /-- A key on the column alone. -/
  | single
  /-- A key together with other columns, at a position among them. -/
  | composite (partners : List String) (order : Int32)
deriving DecidableEq

/-- The columns that a marker names. -/
def KeyMarker.partners : KeyMarker → List String
  | .single => []
  | .composite partners _ => partners

/-- A column of a table. -/
structure Column where
  name : String
  type : ColumnType
  size : Option UInt32 := none
  notNull : Bool := false
  unique : Option KeyMarker := none
  primaryKey : Bool := false
  index : Option KeyMarker := none
  foreignKey : Option ForeignKey := none
  defaultValue : Option DefaultValue := none
  unsigned : Bool := false
  autoIncrement : Bool := false
  comment : Option String := none
  boolean : Bool := false
deriving BEq

/-- A table: its name and its columns in order. -/
structure Table where
  name : String
  columns : List Column
deriving BEq

/-- Tables that are declared and migrated together. -/
abbrev TableGroup := List Table

namespace Table

/-- The first column of the given name. -/
def column? (table : Table) (name : String) : Option Column :=
  table.columns.find? fun column => column.name == name

/-- Whether the table declares a column of the given name. -/
def declares (table : Table) (name : String) : Bool := (table.column? name).isSome

/-- The names of the columns, in order. -/
def columnNames (table : Table) : List String := table.columns.map Column.name

/-- The names of the primary-key columns, in order. -/
def primaryKey (table : Table) : List String :=
  (table.columns.filter Column.primaryKey).map Column.name

/-- Whether the first column of the given name belongs to the primary key. -/
def isPrimaryKey (table : Table) (name : String) : Bool :=
  (table.column? name).any Column.primaryKey

/-- The columns that hold a foreign key, with it. -/
def foreignKeys (table : Table) : List (String × ForeignKey) :=
  table.columns.filterMap fun column => column.foreignKey.map fun key => (column.name, key)

end Table

end SqlCraft
