/-
**Filters: which rows of one table are meant.**

A filter is a list of criteria that all must hold. A criterion is a condition on a field, or a group
of filters joined by `AND` or `OR`. The condition of a field is a value that it equals, or a list of
comparisons that all must hold.

Filters are built from the empty one: `Filter.op` collects comparisons of one field that follow each
other, every other step adds a criterion of its own.
-/

import SqlCraft.Sql.Comparison
import SqlCraft.Value

namespace SqlCraft

open Sql (Operator Joiner)

/-- What is asked of a field. -/
inductive Condition where
  /-- The field equals the value. -/
  | equals (value : Value)
  /-- All comparisons hold. -/
  | all (comparisons : List (Operator × Value))

namespace Condition

/-- The condition as comparisons. -/
def comparisons : Condition → List (Operator × Value)
  | .equals value => [(.equal, value)]
  | .all comparisons => comparisons

/-- The condition with one more comparison. -/
def op {α : Type} [ToValue α] (condition : Condition) (operator : Operator) (value : α) :
    Condition :=
  .all (condition.comparisons ++ [(operator, toValue value)])

end Condition

/-- A part of a filter. -/
inductive Criterion where
  | field (name : String) (condition : Condition)
  | group (joiner : Joiner) (members : List (List Criterion))

/-- Criteria that all must hold. -/
abbrev Filter := List Criterion

namespace Filter

/-- The filter that every row passes. -/
def empty : Filter := []

/-- The filter with a condition on a field. -/
def field (filter : Filter) (name : String) (condition : Condition) : Filter :=
  filter ++ [.field name condition]

/-- The filter that also asks a field to equal a value, or to be null if the value is. -/
def eq {α : Type} [ToValue α] (filter : Filter) (name : String) (value : α) : Filter :=
  filter.field name (.equals (toValue value))

/-- The filter that also compares a field with a value. A comparison of the field that the last
comparison was about joins it in one criterion. -/
def op {α : Type} [ToValue α] (filter : Filter) (name : String) (operator : Operator) (value : α) :
    Filter :=
  match filter.getLast? with
  | some (.field last (.all comparisons)) =>
    if last = name then
      filter.dropLast ++ [.field name ((Condition.all comparisons).op operator value)]
    else filter.field name ((Condition.all []).op operator value)
  | _ => filter.field name ((Condition.all []).op operator value)

/-- The filter that also asks a field to be null. -/
def isNull (filter : Filter) (name : String) : Filter := filter.field name (.equals .null)

/-- The filter that also asks a field not to be null. -/
def isNotNull (filter : Filter) (name : String) : Filter := filter.op name .not Value.null

/-- The filter with a group of filters that all must be passed. -/
def and (filter : Filter) (members : List Filter) : Filter := filter ++ [.group .and members]

/-- The filter with a group of filters of which one must be passed. -/
def or (filter : Filter) (members : List Filter) : Filter := filter ++ [.group .or members]

end Filter

end SqlCraft
