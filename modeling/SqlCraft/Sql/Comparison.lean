/-
**Comparison operators and joiners of conditions.**

Operators have a name, used in filters and in messages, and a sign, used in SQL.
-/

namespace SqlCraft.Sql

/-- A comparison of a column with a value. -/
inductive Operator where
  | equal
  | not
  | lt
  | lte
  | gt
  | gte
deriving DecidableEq, Repr

namespace Operator

/-- The name of the operator. -/
def name : Operator → String
  | .equal => "equal"
  | .not => "not"
  | .lt => "lt"
  | .lte => "lte"
  | .gt => "gt"
  | .gte => "gte"

/-- The sign of the operator. -/
def sign : Operator → String
  | .equal => "="
  | .not => "!="
  | .lt => "<"
  | .lte => "<="
  | .gt => ">"
  | .gte => ">="

end Operator

/-- How the members of a group are joined. -/
inductive Joiner where
  | and
  | or
deriving DecidableEq, Repr

/-- The keyword of a joiner. -/
def Joiner.keyword : Joiner → String
  | .and => "AND"
  | .or => "OR"

end SqlCraft.Sql
