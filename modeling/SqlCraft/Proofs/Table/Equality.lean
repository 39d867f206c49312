/-
**Tables that equal each other.**

Tables are compared by `==`, and in it float defaults compare as numbers. That is symmetric and
transitive, but not reflexive, since a float that is not a number equals nothing:

* `numberOf?` — the number that a float stands for, if it is one;
* `compare_eq_iff` — floats are equal if they stand for one number;
* the instances of `PartialEquivBEq` — equality of defaults, of columns and of tables.
-/

import SqlCraft.Table.Basic

namespace SqlCraft

open Float.Model (UnpackedFloat)

/-! ### Floats -/

/-- The number that a float stands for, if it is one: both zeros stand for the same. -/
def numberOf? : UnpackedFloat → Option UnpackedFloat
  | .notANumber => none
  | .zero _ => some (.zero .positive)
  | number => some number

theorem finite_eq_iff {sign other : UnpackedFloat.Sign} {mantissa rest : Nat} {exponent last : Int}
    (positive : 0 < mantissa) (positiveToo : 0 < rest) :
    UnpackedFloat.finite sign mantissa exponent positive = .finite other rest last positiveToo ↔
      sign = other ∧ exponent = last ∧ mantissa = rest := by
  constructor
  · intro same
    cases same
    exact ⟨rfl, rfl, rfl⟩
  · rintro ⟨rfl, rfl, rfl⟩
    rfl

theorem compare_eq_iff (first second : UnpackedFloat) :
    first.compare second = some .eq ↔
      (numberOf? first).isSome ∧ numberOf? first = numberOf? second := by
  have ordered (exponent other : Int) (mantissa rest : Nat) :
      (compare exponent other).then (compare mantissa rest) = .eq ↔
        exponent = other ∧ mantissa = rest := by
    rw [Ordering.then_eq_eq, Std.compare_eq_iff_eq, Std.compare_eq_iff_eq]
  have apart {first second : UnpackedFloat} (compared : first.compare second ≠ some .eq)
      (numbers : numberOf? first ≠ numberOf? second) :
      first.compare second = some .eq ↔
        (numberOf? first).isSome ∧ numberOf? first = numberOf? second :=
    ⟨fun same => absurd same compared, fun both => absurd both.2 numbers⟩
  -- The comparison looks at the signs before it looks at what they stand in front of.
  cases first with
  | notANumber => exact ⟨by rintro ⟨⟩, by rintro ⟨⟨⟩, -⟩⟩
  | infinity sign =>
    cases second with
    | infinity other =>
      cases sign with
      | negative =>
        cases other with
        | negative => exact ⟨fun _ => ⟨rfl, rfl⟩, fun _ => rfl⟩
        | positive => exact apart (by rintro ⟨⟩) (by rintro ⟨⟩)
      | positive =>
        cases other with
        | negative => exact apart (by rintro ⟨⟩) (by rintro ⟨⟩)
        | positive => exact ⟨fun _ => ⟨rfl, rfl⟩, fun _ => rfl⟩
    | _ => cases sign <;> exact apart (by rintro ⟨⟩) (by rintro ⟨⟩)
  | zero sign =>
    cases second with
    | infinity other | finite other => cases other <;> exact apart (by rintro ⟨⟩) (by rintro ⟨⟩)
    | notANumber => exact apart (by rintro ⟨⟩) (by rintro ⟨⟩)
    | zero other => exact ⟨fun _ => ⟨rfl, rfl⟩, fun _ => rfl⟩
  | finite sign mantissa exponent positive =>
    cases second with
    | finite other rest last positiveToo =>
      have number (sign : UnpackedFloat.Sign) (mantissa : Nat) (exponent : Int)
          (positive : 0 < mantissa) : numberOf? (.finite sign mantissa exponent positive) =
            some (.finite sign mantissa exponent positive) := rfl
      rw [number, number, Option.some_inj, finite_eq_iff, ← ordered, Option.isSome_some]
      cases sign with
      | negative =>
        cases other with
        | negative =>
          show some ((compare exponent last).then (compare mantissa rest)).swap = _ ↔ _
          simp
        | positive =>
          show some Ordering.lt = _ ↔ _
          simp
      | positive =>
        cases other with
        | negative =>
          show some Ordering.gt = _ ↔ _
          simp
        | positive =>
          show some ((compare exponent last).then (compare mantissa rest)) = _ ↔ _
          simp
    | infinity other => cases other <;> cases sign <;> exact apart (by rintro ⟨⟩) (by rintro ⟨⟩)
    | _ => cases sign <;> exact apart (by rintro ⟨⟩) (by rintro ⟨⟩)

theorem float_beq_iff (first second : Float) :
    first == second ↔ (numberOf? first.toModel.unpack).isSome ∧
      numberOf? first.toModel.unpack = numberOf? second.toModel.unpack := by
  rw [← compare_eq_iff, ← beq_iff_eq (α := Option Ordering)]
  rfl

instance float_partialEquivBEq : PartialEquivBEq Float where
  symm {first second} same := by
    rw [float_beq_iff] at same ⊢
    exact ⟨same.2 ▸ same.1, same.2.symm⟩
  trans {first second third} same next := by
    rw [float_beq_iff] at same next ⊢
    exact ⟨same.1, same.2.trans next.2⟩

/-! ### Lists and options -/

section Containers

variable {α : Type} [BEq α] [PartialEquivBEq α]

instance option_partialEquivBEq : PartialEquivBEq (Option α) where
  symm {first second} same := by
    cases first <;> cases second <;>
      first | exact same | exact PartialEquivBEq.symm (α := α) same
  trans {first second third} same next := by
    cases first with
    | none => cases second with
      | none => exact next
      | some => cases same
    | some value => cases second with
      | none => cases same
      | some other => cases third with
        | none => cases next
        | some last => exact PartialEquivBEq.trans (α := α) same next

instance list_partialEquivBEq : PartialEquivBEq (List α) where
  symm {first second} same := by
    induction first generalizing second with
    | nil => cases second with
      | nil => rfl
      | cons => cases same
    | cons item rest ih => cases second with
      | nil => cases same
      | cons other others =>
        rw [List.cons_beq_cons, Bool.and_eq_true] at same ⊢
        exact ⟨PartialEquivBEq.symm same.1, ih same.2⟩
  trans {first second third} same next := by
    induction first generalizing second third with
    | nil => cases second with
      | nil => exact next
      | cons => cases same
    | cons item rest ih => cases second with
      | nil => cases same
      | cons other others => cases third with
        | nil => cases next
        | cons last lasts =>
          rw [List.cons_beq_cons, Bool.and_eq_true] at same next ⊢
          exact ⟨PartialEquivBEq.trans same.1 next.1, ih same.2 next.2⟩

end Containers

/-! ### Defaults, columns and tables -/

/-- Defaults are equal if they are floats that are equal as numbers, or the same and no floats. -/
theorem DefaultValue.beq_iff (first second : DefaultValue) :
    first == second ↔ (∃ value other, first = .float value ∧ second = .float other ∧ value == other) ∨
      (∀ value, first ≠ .float value) ∧ first = second := by
  cases first <;> cases second <;> simp [BEq.beq, instBEqDefaultValue.beq]

instance : PartialEquivBEq DefaultValue where
  symm {first second} same := by
    rw [DefaultValue.beq_iff] at same ⊢
    obtain ⟨value, other, rfl, rfl, equal⟩ | ⟨plain, rfl⟩ := same
    · exact .inl ⟨other, value, rfl, rfl, PartialEquivBEq.symm equal⟩
    · exact .inr ⟨plain, rfl⟩
  trans {first second third} same next := by
    rw [DefaultValue.beq_iff] at same next ⊢
    obtain ⟨value, other, rfl, rfl, equal⟩ | ⟨plain, rfl⟩ := same
    · obtain ⟨middle, last, here, rfl, later⟩ | ⟨plain, -⟩ := next
      · cases here
        exact .inl ⟨value, last, rfl, rfl, PartialEquivBEq.trans equal later⟩
      · exact absurd rfl (plain other)
    · exact next

/-- Columns are equal if their defaults are and everything else is the same. -/
theorem Column.beq_iff (first second : Column) :
    first == second ↔ { first with defaultValue := none } = { second with defaultValue := none } ∧
      first.defaultValue == second.defaultValue := by
  cases first
  cases second
  show instBEqColumn.beq _ _ ↔ _
  simp only [instBEqColumn.beq, Bool.and_eq_true, beq_iff_eq, Column.mk.injEq]
  grind

instance : PartialEquivBEq Column where
  symm {first second} same := by
    rw [Column.beq_iff] at same ⊢
    exact ⟨same.1.symm, PartialEquivBEq.symm same.2⟩
  trans {first second third} same next := by
    rw [Column.beq_iff] at same next ⊢
    exact ⟨same.1.trans next.1, PartialEquivBEq.trans same.2 next.2⟩

/-- Tables are equal if their columns are and their names are the same. -/
theorem Table.beq_iff (first second : Table) :
    first == second ↔ first.name = second.name ∧ first.columns == second.columns := by
  show instBEqTable.beq first second ↔ _
  simp [instBEqTable.beq]

instance : PartialEquivBEq Table where
  symm {first second} same := by
    rw [Table.beq_iff] at same ⊢
    exact ⟨same.1.symm, PartialEquivBEq.symm same.2⟩
  trans {first second third} same next := by
    rw [Table.beq_iff] at same next ⊢
    exact ⟨same.1.trans next.1, PartialEquivBEq.trans same.2 next.2⟩

end SqlCraft
