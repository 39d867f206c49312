/-
**Values that a statement binds.**

A `Value` is what stands behind a placeholder. Host values become one by `ToValue.toValue`, which
never fails: a missing value is null, dates and times are text, and an array or object of JSON is
its compact text.
-/

import SqlCraft.Calendar
import SqlCraft.Json.Basic

namespace SqlCraft

/-- A value bound to a placeholder. -/
inductive Value where
  | null
  | bool (value : Bool)
  | int (value : Int64)
  | uint (value : UInt64)
  | float (value : Float)
  | text (value : String)
  | blob (bytes : List UInt8)
deriving DecidableEq

instance : Inhabited Value := ⟨.null⟩

/-- Whether the value is null. -/
def Value.isNull : Value → Bool
  | .null => true
  | _ => false

@[simp] theorem Value.isNull_iff {value : Value} : value.isNull = true ↔ value = .null := by
  cases value <;> simp [isNull]

/-- Host values that can be bound. -/
class ToValue (α : Type) where
  /-- The value that is bound. -/
  toValue : α → Value

export ToValue (toValue)

namespace ToValue

instance : ToValue Value := ⟨id⟩
instance : ToValue Bool := ⟨.bool⟩
instance : ToValue Int8 := ⟨fun value => .int value.toInt64⟩
instance : ToValue Int16 := ⟨fun value => .int value.toInt64⟩
instance : ToValue Int32 := ⟨fun value => .int value.toInt64⟩
instance : ToValue Int64 := ⟨.int⟩
instance : ToValue UInt8 := ⟨fun value => .uint value.toUInt64⟩
instance : ToValue UInt16 := ⟨fun value => .uint value.toUInt64⟩
instance : ToValue UInt32 := ⟨fun value => .uint value.toUInt64⟩
instance : ToValue UInt64 := ⟨.uint⟩
instance : ToValue Float := ⟨.float⟩
instance : ToValue Float32 := ⟨fun value => .float value.toFloat⟩
instance : ToValue String := ⟨.text⟩
instance : ToValue (List UInt8) := ⟨.blob⟩

instance : ToValue ByteArray := ⟨fun bytes => .blob bytes.data.toList⟩
instance : ToValue Date := ⟨fun value => .text value.text⟩
instance : ToValue DateTime := ⟨fun value => .text value.text⟩

instance {α : Type} [ToValue α] : ToValue (Option α) where
  toValue
    | some value => toValue value
    | none => .null

/-- An integer of JSON is signed if it fits 64 bits with a sign, else unsigned if it fits without,
else the nearest double. -/
def ofInteger (value : Int) : Value :=
  if Int64.minValue.toInt ≤ value ∧ value ≤ Int64.maxValue.toInt then .int (Int64.ofInt value)
  else if 0 ≤ value ∧ value < UInt64.size then .uint value.toNat.toUInt64
  else .float (Float.ofInt value)

instance : ToValue Json where
  toValue
    | .null => .null
    | .bool value => .bool value
    | .integer value => ofInteger value
    | .double value => .float value
    | .string value => .text value
    | structured => .text structured.compact

end ToValue

end SqlCraft
