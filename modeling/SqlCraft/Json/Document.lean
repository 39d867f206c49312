/-
**Documents: typed values in JSON text.**

A `Reader` turns the source of a value into a typed value or the first fault a left-to-right
reading meets. Readers of scalars and lists stand beside two ways to combine readers:

* `Layout.read` — a record, given as an object or as an array of its fields in order. Its fields
  are read into *attributes*, one type for all fields of the record, from which the caller builds
  the record. Unknown keys are passed over; a repeated key is refused when it is met, a missing one
  when the object ends.
* `Variant.read` — one of several named variants, given as the bare name or as an object with the
  name as its only key.

`Document.read` reads a whole text: behind its value there may be only blanks.
-/

import SqlCraft.Json.Source
import SqlCraft.Text.Quoted

namespace SqlCraft.Json

/-- What a reader met in place of what it wanted. -/
inductive Found where
  | null
  | bool (value : Bool)
  | integer (value : Int)
  | double (value : Float)
  | string (value : String)
  | sequence
  | map

/-- The wording of what was met. -/
def Found.text : Found → String
  | .null => "null"
  | .bool value => s!"boolean `{value}`"
  | .integer value => s!"integer `{value}`"
  | .double value => "floating point `" ++ Numeric.FloatStyle.json.text value ++ "`"
  | .string value => "string " ++ Text.quoted value
  | .sequence => "sequence"
  | .map => "map"

/-- Why a text does not hold the document that was wanted. -/
inductive Fault where
  /-- The text is not JSON, or goes on where the document has ended. -/
  | unreadable
  | missingField (name : String)
  | repeatedField (name : String)
  | unknownVariant (name : String) (known : List String)
  | wrongKind (found : Found) (wanted : String)
  | outOfRange (value : Int) (wanted : String)
  | wrongLength (length : Nat) (shape : String) (fields : Nat)
  /-- A variant that holds a value is given by its name alone. -/
  | variantWithoutValue
  /-- A value that its own rule refuses. -/
  | refused (reason : String)

/-- The wording of a fault; none where only the text is at fault. -/
def Fault.message? : Fault → Option String
  | .unreadable => none
  | .missingField name => some s!"missing field `{name}`"
  | .repeatedField name => some s!"duplicate field `{name}`"
  | .unknownVariant name known =>
    some (s!"unknown variant `{name}`, expected one of " ++
      String.intercalate ", " (known.map fun variant => s!"`{variant}`"))
  | .wrongKind found wanted => some ("invalid type: " ++ found.text ++ ", expected " ++ wanted)
  | .outOfRange value wanted => some s!"invalid value: integer `{value}`, expected {wanted}"
  | .wrongLength length shape fields =>
    some s!"invalid length {length}, expected struct {shape} with {fields} elements"
  | .variantWithoutValue => some "invalid type: unit variant, expected newtype variant"
  | .refused reason => some reason

/-- A typed value from the source of a value. -/
abbrev Reader (α : Type) := Source → Except Fault α

/-! ### Scalars and lists -/

/-- The fault of a value that is not of the wanted kind. A value that cannot be read at all is
reported as such; an array or object is reported without a look inside. -/
def wrongKind (wanted : String) : Source → Fault
  | .null => .wrongKind .null wanted
  | .bool value => .wrongKind (.bool value) wanted
  | .number numeral =>
    match numeral.number? with
    | some (.integer value) => .wrongKind (.integer value) wanted
    | some (.double value) => .wrongKind (.double value) wanted
    | none => .unreadable
  | .string (some value) => .wrongKind (.string value) wanted
  | .string none => .unreadable
  | .array _ => .wrongKind .sequence wanted
  | .object _ => .wrongKind .map wanted
  | .broken => .unreadable
  | .tooDeep _ => .unreadable

namespace Reader

/-- Text. -/
def string : Reader String
  | .string (some value) => .ok value
  | source => .error (wrongKind "a string" source)

/-- A truth value. -/
def bool : Reader Bool
  | .bool value => .ok value
  | source => .error (wrongKind "a boolean" source)

/-- An integer of the given range. -/
def integer (low high : Int) (wanted : String) : Reader Int
  | .number numeral =>
    match numeral.number? with
    | some (.integer value) =>
      if low ≤ value ∧ value ≤ high then .ok value else .error (.outOfRange value wanted)
    | _ => .error (wrongKind wanted (.number numeral))
  | source => .error (wrongKind wanted source)

/-- A double; an integer is rounded to the nearest one. -/
def double : Reader Float
  | .number numeral =>
    match numeral.number? with
    | some (.integer value) =>
      .ok (if value < 0 then -(value.natAbs.toUInt64.toFloat) else value.natAbs.toUInt64.toFloat)
    | some (.double value) => .ok value
    | none => .error .unreadable
  | source => .error (wrongKind "f64" source)

/-- A value that may be null. -/
def option {α : Type} (read : Reader α) : Reader (Option α)
  | .null => .ok none
  | source => (read source).map some

/-- The values of a list, up to the first fault. -/
def list {α : Type} (read : Reader α) : Reader (List α)
  | .array items => items.mapM read
  | source => .error (wrongKind "a sequence" source)

/-- The members of an object with any keys, up to the first fault. -/
def map {α : Type} (read : Reader α) : Reader (List (String × α))
  | .object members => members.mapM fun (key, value) =>
    match key with
    | some name => (read value).map fun held => (name, held)
    | none => .error .unreadable
  | source => .error (wrongKind "a map" source)

end Reader

/-! ### Records -/

/-- A field of a record: its key, whether it must be there, and the reader of its value. -/
structure Field (Attribute : Type) where
  name : String
  required : Bool
  read : Reader Attribute

/-- A record: its name and its fields in order. -/
structure Layout (Attribute : Type) where
  name : String
  fields : List (Field Attribute)

namespace Layout

variable {Attribute : Type}

/-- The attributes of an object's members, behind members with the keys `seen`. -/
def readMembers (layout : Layout Attribute) (seen : List String) :
    List (Option String × Source) → Except Fault (List Attribute)
  | [] =>
    match layout.fields.find? fun field => field.required && !seen.contains field.name with
    | some field => .error (.missingField field.name)
    | none => .ok []
  | (some key, value) :: rest =>
    match layout.fields.find? fun field => field.name == key with
    | none => if value.isSound then layout.readMembers seen rest else .error .unreadable
    | some field =>
      if seen.contains key then .error (.repeatedField key)
      else do
        let part ← field.read value
        return part :: (← layout.readMembers (key :: seen) rest)
  | (none, _) :: _ => .error .unreadable

/-- The attributes of an array's items, for the given fields from the given position on. Fields
that are not required may be missing at the end. -/
def readItems (layout : Layout Attribute) (position : Nat) :
    List (Field Attribute) → List Source → Except Fault (List Attribute)
  | [], [] => .ok []
  | [], _ :: _ => .error .unreadable
  | field :: fields, item :: items => do
    let part ← field.read item
    return part :: (← layout.readItems (position + 1) fields items)
  | field :: fields, [] =>
    if field.required then .error (.wrongLength position layout.name layout.fields.length)
    else layout.readItems (position + 1) fields []

/-- The attributes of a record. -/
def read (layout : Layout Attribute) : Reader (List Attribute)
  | .object members => layout.readMembers [] members
  | .array items => layout.readItems 0 layout.fields items
  | source => .error (wrongKind ("struct " ++ layout.name) source)

end Layout

/-! ### Variants -/

/-- A named variant: its value when it is given by the name alone, and the reader of the value
behind the name. -/
structure Variant (α : Type) where
  name : String
  bare : Except Fault α
  read : Reader α

namespace Variant

variable {α : Type}

/-- A variant without a value; behind its name only null may stand. -/
def constant (name : String) (value : α) : Variant α where
  name
  bare := .ok value
  read
    | .null => .ok value
    | source => .error (wrongKind "unit" source)

/-- A variant with a value. -/
def holding {β : Type} (name : String) (build : β → α) (read : Reader β) : Variant α where
  name
  bare := .error .variantWithoutValue
  read source := (read source).map build

/-- The variant of the given name. -/
def named (variants : List (Variant α)) (name : String) : Except Fault (Variant α) :=
  match variants.find? fun variant => variant.name == name with
  | some variant => .ok variant
  | none => .error (.unknownVariant name (variants.map Variant.name))

/-- One of the variants. -/
def readAny (variants : List (Variant α)) : Reader α
  | .string (some name) => do (← named variants name).bare
  | .object ((some name, value) :: rest) => do
    let held ← (← named variants name).read value
    if rest.isEmpty then return held else throw .unreadable
  | _ => .error .unreadable

end Variant

/-! ### Whole texts -/

/-- The document that a whole text holds. -/
def readText {α : Type} (read : Reader α) (text : String) : Except Fault α := do
  let (source, rest) := Source.read (Token.scan text.toList)
  let value ← read source
  if rest.isEmpty then return value else throw .unreadable

end SqlCraft.Json
