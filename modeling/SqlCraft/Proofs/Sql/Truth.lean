/-
**Truth values of SQL conditions.**

A condition holds, fails or is unknown. A comparison with null is unknown, whatever the comparison;
the outcome of a comparison of two values that are there is left open (`Relation`), since it depends
on the types and collations of the database.

* `Truth.and`, `Truth.or` — a conjunction fails if one part fails and is unknown if none does and
  one is unknown; a disjunction the other way round;
* `Relation.truth` — the outcome of a comparison.
-/

import SqlCraft.Sql.Comparison
import SqlCraft.Value

namespace SqlCraft.Sql

/-- The value of a condition on a row. -/
inductive Truth where
  | holds
  | fails
  | unknown
deriving DecidableEq, Repr

namespace Truth

/-- The value of a condition that is never unknown. -/
def ofBool (value : Bool) : Truth := if value then holds else fails

/-- The value of a conjunction. -/
def and : Truth → Truth → Truth
  | fails, _ => fails
  | _, fails => fails
  | holds, other => other
  | unknown, _ => unknown

/-- The value of a disjunction. -/
def or : Truth → Truth → Truth
  | holds, _ => holds
  | _, holds => holds
  | fails, other => other
  | unknown, _ => unknown

@[simp] theorem holds_and (truth : Truth) : and holds truth = truth := by cases truth <;> rfl

@[simp] theorem and_holds (truth : Truth) : and truth holds = truth := by cases truth <;> rfl

theorem and_assoc (first second third : Truth) :
    and (and first second) third = and first (and second third) := by
  cases first <;> cases second <;> cases third <;> rfl

@[simp] theorem or_fails (truth : Truth) : or truth fails = truth := by cases truth <;> rfl

/-- The value of a condition whose parts must all hold. -/
def all (parts : List Truth) : Truth := parts.foldr and holds

/-- The value of a condition of whose parts one must hold. -/
def any (parts : List Truth) : Truth := parts.foldr or fails

theorem all_append (left right : List Truth) : all (left ++ right) = and (all left) (all right) := by
  induction left with
  | nil => exact (holds_and _).symm
  | cons first left ih =>
    calc all (first :: left ++ right) = and first (all (left ++ right)) := rfl
      _ = and first (and (all left) (all right)) := by rw [ih]
      _ = and (all (first :: left)) (all right) := (and_assoc _ _ _).symm

/-- Parts of parts that must all hold are parts that must all hold. -/
theorem all_flatten (parts : List (List Truth)) : all parts.flatten = all (parts.map all) := by
  induction parts with
  | nil => rfl
  | cons first parts ih =>
    calc all (first :: parts).flatten = and (all first) (all parts.flatten) := all_append _ _
      _ = and (all first) (all (parts.map all)) := by rw [ih]

end Truth

/-- How a database compares two values that are not null. -/
structure Relation where
  compare : Operator → Value → Value → Truth

/-- The outcome of a comparison: unknown if a side is null. -/
def Relation.truth (relation : Relation) (operator : Operator) (left right : Value) : Truth :=
  if left.isNull || right.isNull then .unknown else relation.compare operator left right

end SqlCraft.Sql
