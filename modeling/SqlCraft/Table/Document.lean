/-
**Tables as JSON documents.**

Each record is read through its `Layout` into parts, one for each member, and the record is what the
parts make of a blank one. Writing lists the members in the layout's order and leaves out what is
absent or false, so a part that is not written is the one that the blank record has.

* `Table.reader`, `Table.toJson`; the same pair for columns, foreign keys, key markers, defaults.
-/

import SqlCraft.Json.Document
import SqlCraft.Table.Basic

namespace SqlCraft

open Json (Reader Field Layout Variant Fault Source)

/-! ### Members that may be left out -/

/-- A member for a value that is there, and none otherwise. -/
def Json.member? {α : Type} (key : String) (write : α → Json) : Option α → List (String × Json)
  | some value => [(key, write value)]
  | none => []

/-- A member for what is true, and none otherwise. -/
def Json.flag (key : String) (value : Bool) : List (String × Json) :=
  if value then [(key, .bool true)] else []

/-- A field that must be there. -/
def Json.Field.must {α Part : Type} (name : String) (build : α → Part) (read : Reader α) :
    Field Part :=
  ⟨name, true, fun source => (read source).map build⟩

/-- A field that may be missing. -/
def Json.Field.may {α Part : Type} (name : String) (build : α → Part) (read : Reader α) :
    Field Part :=
  ⟨name, false, fun source => (read source).map build⟩

/-! ### Scalars of fixed width -/

/-- An unsigned integer of 32 bits. -/
def Json.Reader.uint32 : Reader UInt32 := fun source =>
  (Reader.integer 0 (UInt32.size - 1) "u32" source).map fun value => UInt32.ofNat value.toNat

/-- A signed integer of 32 bits. -/
def Json.Reader.int32 : Reader Int32 := fun source =>
  (Reader.integer Int32.minValue.toInt Int32.maxValue.toInt "i32" source).map Int32.ofInt

/-- A signed integer of 64 bits. -/
def Json.Reader.int64 : Reader Int64 := fun source =>
  (Reader.integer Int64.minValue.toInt Int64.maxValue.toInt "i64" source).map Int64.ofInt

/-! ### Column types and actions -/

/-- Reads a column type by its SQL name. -/
def ColumnType.reader : Reader ColumnType :=
  Variant.readAny (ColumnType.all.map fun type => .constant type.name type)

namespace ReferentialAction

/-- All actions, in order. -/
def all : List ReferentialAction := [.noAction, .restrict, .cascade, .setNull, .setDefault]

/-- The name of an action in a document. -/
def name : ReferentialAction → String
  | .noAction => "NO_ACTION"
  | .restrict => "RESTRICT"
  | .cascade => "CASCADE"
  | .setNull => "SET_NULL"
  | .setDefault => "SET_DEFAULT"

/-- Reads an action by its name. -/
def reader : Reader ReferentialAction :=
  Variant.readAny (all.map fun action => .constant action.name action)

end ReferentialAction

/-! ### Defaults -/

namespace DefaultValue

/-- Reads a default. -/
def reader : Reader DefaultValue :=
  Variant.readAny [
    .constant "Null" .null,
    .holding "Bool" .bool Reader.bool,
    .holding "Integer" .integer Reader.int64,
    .holding "Float" .float Reader.double,
    .holding "String" .string Reader.string,
    .holding "Expression" .expression Reader.string]

/-- Writes a default: its kind as the only key, or as the bare name for null. -/
def toJson : DefaultValue → Json
  | .null => .string "Null"
  | .bool value => .object [("Bool", .bool value)]
  | .integer value => .object [("Integer", .integer value.toInt)]
  | .float value => .object [("Float", .double value)]
  | .string value => .object [("String", .string value)]
  | .expression sql => .object [("Expression", .string sql)]

end DefaultValue

/-! ### Foreign keys -/

namespace ForeignKey

/-- A member of a foreign key. -/
inductive Part where
  | table (value : String)
  | field (value : String)
  | constraintName (value : Option String)
  | onDelete (value : Option ReferentialAction)
  | onUpdate (value : Option ReferentialAction)

/-- The key with one of its members set. -/
def set (key : ForeignKey) : Part → ForeignKey
  | .table value => { key with table := value }
  | .field value => { key with field := value }
  | .constraintName value => { key with constraintName := value }
  | .onDelete value => { key with onDelete := value }
  | .onUpdate value => { key with onUpdate := value }

/-- The members of a foreign key. -/
def layout : Layout Part where
  name := "ForeignKey"
  fields := [
    .must "table" .table Reader.string,
    .must "field" .field Reader.string,
    .may "constraintName" .constraintName Reader.string.option,
    .may "onDelete" .onDelete ReferentialAction.reader.option,
    .may "onUpdate" .onUpdate ReferentialAction.reader.option]

/-- Reads a foreign key. -/
def reader : Reader ForeignKey := fun source =>
  (layout.read source).map (·.foldl set { table := "", field := "" })

/-- Writes a foreign key. -/
def toJson (key : ForeignKey) : Json :=
  .object <|
    [("table", .string key.table), ("field", .string key.field)] ++
    Json.member? "constraintName" .string key.constraintName ++
    Json.member? "onDelete" (fun action => .string action.name) key.onDelete ++
    Json.member? "onUpdate" (fun action => .string action.name) key.onUpdate

end ForeignKey

/-! ### Key markers -/

namespace KeyMarker

/-- A member of a composite marker. -/
inductive Part where
  | partners (value : List String)
  | order (value : Int32)

/-- The members of a composite marker. -/
def layout : Layout Part where
  name := "CompositeKey"
  fields := [
    .must "with" .partners (Reader.list Reader.string),
    .must "order" .order Reader.int32]

/-- A composite marker with one of its members set. -/
def set : KeyMarker → Part → KeyMarker
  | .composite _ order, .partners value => .composite value order
  | .composite partners _, .order value => .composite partners value
  | .single, _ => .single

/-- Reads a key marker. The whole value must be readable before it is looked at, and what does not
fit a composite marker is refused as a whole. -/
def reader : Reader KeyMarker := fun source =>
  match source.toJson? with
  | none => .error .unreadable
  | some (.bool true) => .ok .single
  | some (.bool false) => .error (.refused "key flag must be `true` when present")
  | some _ =>
    match layout.read source with
    | .ok parts => .ok (parts.foldl set (.composite [] 0))
    | .error _ =>
      .error (.refused "data did not match any variant of untagged enum KeySpecRepr")

/-- Writes a key marker. -/
def toJson : KeyMarker → Json
  | .single => .bool true
  | .composite partners order =>
    .object [("with", .array (partners.map .string)), ("order", .integer order.toInt)]

end KeyMarker

/-! ### Columns -/

namespace Column

/-- A member of a column. -/
inductive Part where
  | name (value : String)
  | type (value : ColumnType)
  | size (value : Option UInt32)
  | notNull (value : Bool)
  | unique (value : Option KeyMarker)
  | primaryKey (value : Bool)
  | index (value : Option KeyMarker)
  | foreignKey (value : Option ForeignKey)
  | defaultValue (value : Option DefaultValue)
  | unsigned (value : Bool)
  | autoIncrement (value : Bool)
  | comment (value : Option String)
  | boolean (value : Bool)

/-- The column with one of its members set. -/
def set (column : Column) : Part → Column
  | .name value => { column with name := value }
  | .type value => { column with type := value }
  | .size value => { column with size := value }
  | .notNull value => { column with notNull := value }
  | .unique value => { column with unique := value }
  | .primaryKey value => { column with primaryKey := value }
  | .index value => { column with index := value }
  | .foreignKey value => { column with foreignKey := value }
  | .defaultValue value => { column with defaultValue := value }
  | .unsigned value => { column with unsigned := value }
  | .autoIncrement value => { column with autoIncrement := value }
  | .comment value => { column with comment := value }
  | .boolean value => { column with boolean := value }

/-- The members of a column. -/
def layout : Layout Part where
  name := "FieldDefinition"
  fields := [
    .must "name" .name Reader.string,
    .must "type" .type ColumnType.reader,
    .may "size" .size Reader.uint32.option,
    .may "notNull" .notNull Reader.bool,
    .may "unique" .unique KeyMarker.reader.option,
    .may "primaryKey" .primaryKey Reader.bool,
    .may "indexKey" .index KeyMarker.reader.option,
    .may "foreignKey" .foreignKey ForeignKey.reader.option,
    .may "defaultValue" .defaultValue DefaultValue.reader.option,
    .may "unsigned" .unsigned Reader.bool,
    .may "autoIncrement" .autoIncrement Reader.bool,
    .may "comment" .comment Reader.string.option,
    .may "boolean" .boolean Reader.bool]

/-- Reads a column. -/
def reader : Reader Column := fun source =>
  (layout.read source).map (·.foldl set { name := "", type := .int })

/-- Writes a column. -/
def toJson (column : Column) : Json :=
  .object <|
    [("name", .string column.name), ("type", .string column.type.name)] ++
    Json.member? "size" (fun size => .integer size.toNat) column.size ++
    Json.flag "notNull" column.notNull ++
    Json.member? "unique" KeyMarker.toJson column.unique ++
    Json.flag "primaryKey" column.primaryKey ++
    Json.member? "indexKey" KeyMarker.toJson column.index ++
    Json.member? "foreignKey" ForeignKey.toJson column.foreignKey ++
    Json.member? "defaultValue" DefaultValue.toJson column.defaultValue ++
    Json.flag "unsigned" column.unsigned ++
    Json.flag "autoIncrement" column.autoIncrement ++
    Json.member? "comment" .string column.comment ++
    Json.flag "boolean" column.boolean

end Column

/-! ### Tables -/

namespace Table

/-- A member of a table. -/
inductive Part where
  | name (value : String)
  | columns (value : List Column)

/-- The table with one of its members set. -/
def set (table : Table) : Part → Table
  | .name value => { table with name := value }
  | .columns value => { table with columns := value }

/-- The members of a table. -/
def layout : Layout Part where
  name := "TableSchema"
  fields := [
    .must "tableName" .name Reader.string,
    .must "fields" .columns (Reader.list Column.reader)]

/-- Reads a table. -/
def reader : Reader Table := fun source =>
  (layout.read source).map (·.foldl set { name := "", columns := [] })

/-- Writes a table. -/
def toJson (table : Table) : Json :=
  .object [("tableName", .string table.name), ("fields", .array (table.columns.map Column.toJson))]

/-- Reads groups of tables. -/
def groupsReader : Reader (List TableGroup) := Reader.list (Reader.list reader)

/-- Writes groups of tables. -/
def groupsToJson (groups : List TableGroup) : Json :=
  .array (groups.map fun group => .array (group.map toJson))

end Table

end SqlCraft
