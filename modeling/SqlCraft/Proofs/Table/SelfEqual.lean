/-
**Tables that equal themselves.**

Tables are compared by `==`, and in it float defaults compare as numbers. So a table equals itself
exactly if none of its defaults is a float that is not a number:

* `float_beq_self` — a float equals itself unless it is not a number;
* `Table.beq_self` — so does a table unless one of its defaults is not a number.
-/

import SqlCraft.Table.Basic

namespace SqlCraft

theorem float_beq_self (value : Float) : (value == value) = !value.isNaN := by
  show (value.toModel.unpack.compare value.toModel.unpack == some .eq) =
    !value.toModel.unpack.isNaN
  cases value.toModel.unpack with
  | notANumber => rfl
  | infinity sign => cases sign <;> rfl
  | zero sign => rfl
  | finite sign mantissa exponent positive =>
    have same : (compare exponent exponent).then (compare mantissa mantissa) = .eq := by
      have exponents : compare exponent exponent = .eq := Std.ReflCmp.compare_self
      have mantissas : compare mantissa mantissa = .eq := Std.ReflCmp.compare_self
      rw [exponents, mantissas]
      rfl
    cases sign with
    | positive =>
      show (some ((compare exponent exponent).then (compare mantissa mantissa)) == some .eq) = true
      rw [same]
      rfl
    | negative =>
      show (some ((compare exponent exponent).then (compare mantissa mantissa)).swap ==
        some .eq) = true
      rw [same]
      rfl

/-- Whether a default is not a float that is not a number. -/
def DefaultValue.isNumber : DefaultValue → Bool
  | .float value => !value.isNaN
  | _ => true

/-- Whether no default of a table is a float that is not a number. -/
def Table.hasNumbers (table : Table) : Bool :=
  table.columns.all fun column => column.defaultValue.all DefaultValue.isNumber

theorem DefaultValue.beq_self (value : DefaultValue) : (value == value) = value.isNumber := by
  cases value with
  | float value => exact float_beq_self value
  | null => rfl
  | bool value => exact BEq.rfl (a := value)
  | integer value => exact BEq.rfl (a := value)
  | string value => exact BEq.rfl (a := value)
  | expression sql => exact BEq.rfl (a := sql)

theorem Column.beq_self (column : Column) :
    (column == column) = column.defaultValue.all DefaultValue.isNumber := by
  have fields : (column == column) = (column.defaultValue == column.defaultValue) := by
    show instBEqColumn.beq column column = _
    simp [instBEqColumn.beq]
  rw [fields]
  cases column.defaultValue with
  | none => rfl
  | some value => exact DefaultValue.beq_self value

theorem columns_beq_self (columns : List Column) :
    (columns == columns) =
      columns.all fun column => column.defaultValue.all DefaultValue.isNumber := by
  induction columns with
  | nil => rfl
  | cons column rest ih => rw [List.cons_beq_cons, Column.beq_self, ih, List.all_cons]

/-- **A table equals itself exactly if its float defaults are numbers.** -/
theorem Table.beq_self (table : Table) : (table == table) = table.hasNumbers := by
  have fields : (table == table) = (table.columns == table.columns) := by
    show instBEqTable.beq table table = _
    simp [instBEqTable.beq]
  rw [fields, columns_beq_self, Table.hasNumbers]

end SqlCraft
