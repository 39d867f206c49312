/-
**Clauses: filters compiled against a table.**

Each criterion of a filter becomes one clause: the tests of one column, or a group of clause lists.
A test with null asks whether the column is null; a comparison that orders has no meaning for null
and is refused, as are unknown fields, empty groups, empty members and empty comparison lists. The
first offence from left to right is the error.

* `Filter.compile` — the clauses of a filter;
* `Clause.fragment` — a clause in SQL. A member of a group stands in brackets of its own exactly if
  it consists of several tests or clauses, since these are joined by `AND`;
* `Clause.conjunction` — clauses joined by `AND`.
-/

import SqlCraft.CompileError
import SqlCraft.Filter.Basic
import SqlCraft.Sql.Fragment

namespace SqlCraft

open Sql (Operator Joiner Fragment ColumnName)

/-- A test of one column. The value of a comparison is not null. -/
inductive Test where
  | isNull
  | isNotNull
  | compare (operator : Operator) (value : Value)

/-- A compiled criterion. -/
inductive Clause where
  /-- Tests of one column that all must hold. -/
  | column (name : ColumnName) (tests : List Test)
  /-- Members of which all or one must hold, each a list of clauses that all must hold. -/
  | group (joiner : Joiner) (members : List (List Clause))

/-! ### Compiling -/

/-- The test of a comparison. -/
def Test.ofComparison (column : ColumnName) : Operator × Value → Compiled Test
  | (.equal, .null) => .ok .isNull
  | (.not, .null) => .ok .isNotNull
  | (operator, .null) => .error (.nullOrdering column.table column.field operator)
  | (operator, value) => .ok (.compare operator value)

/-- The clause of a condition on a declared field. -/
def Condition.compile (column : ColumnName) (condition : Condition) : Compiled Clause :=
  if condition.comparisons.isEmpty then
    .error (.descriptor (.noOperator column.table column.field))
  else (condition.comparisons.mapM (Test.ofComparison column)).map (.column column)

mutual

/-- The clause of a criterion. -/
def Criterion.compile (table : Table) : Criterion → Compiled Clause
  | .field name condition => do
    table.require name
    condition.compile ⟨table.name, name⟩
  | .group joiner members =>
    match members with
    | [] => .error (.descriptor (.emptyGroup joiner table.name))
    | first :: rest => (compileMembers table joiner (first :: rest)).map (.group joiner)

/-- The clauses of a filter, one for each criterion. -/
def compileCriteria (table : Table) : List Criterion → Compiled (List Clause)
  | [] => .ok []
  | criterion :: rest => do
    let clause ← criterion.compile table
    return clause :: (← compileCriteria table rest)

/-- The clauses of the members of a group. -/
def compileMembers (table : Table) (joiner : Joiner) :
    List (List Criterion) → Compiled (List (List Clause))
  | [] => .ok []
  | member :: rest => do
    let clauses ← compileCriteria table member
    if clauses.isEmpty then throw (.descriptor (.emptyMember joiner table.name))
    return clauses :: (← compileMembers table joiner rest)

end

/-- The clauses of a filter on a table. -/
def Filter.compile (table : Table) (filter : Filter) : Compiled (List Clause) :=
  compileCriteria table filter

/-! ### SQL -/

/-- A test of a column in SQL. -/
def Test.fragment (column : ColumnName) : Test → Fragment
  | .isNull => column.fragment ++ [.word " IS NULL"]
  | .isNotNull => column.fragment ++ [.word " IS NOT NULL"]
  | .compare operator value =>
    column.fragment ++ [.word (" " ++ operator.sign ++ " "), .slot value]

namespace Clause

/-- Whether clauses joined by `AND` are more than one test or group. -/
def isCompound : List Clause → Bool
  | [.column _ tests] => 1 < tests.length
  | clauses => 1 < clauses.length

mutual

/-- A clause in SQL. -/
def fragment : Clause → Fragment
  | .column name tests => Fragment.join " AND " (tests.map (Test.fragment name))
  | .group joiner members =>
    Fragment.parenthesized (Fragment.join (" " ++ joiner.keyword ++ " ") (memberFragments members))

/-- Each of some clauses in SQL. -/
def fragments : List Clause → List Fragment
  | [] => []
  | clause :: rest => clause.fragment :: fragments rest

/-- The members of a group in SQL. -/
def memberFragments : List (List Clause) → List Fragment
  | [] => []
  | member :: rest =>
    let joined := Fragment.join " AND " (fragments member)
    (if isCompound member then Fragment.parenthesized joined else joined) :: memberFragments rest

end

theorem fragments_eq_map (clauses : List Clause) : fragments clauses = clauses.map fragment := by
  induction clauses with
  | nil => rfl
  | cons clause rest ih => rw [fragments, ih, List.map_cons]

/-- Clauses joined by `AND`. -/
def conjunction (clauses : List Clause) : Fragment := Fragment.join " AND " (fragments clauses)

/-- A `WHERE` part with a blank in front, if there are any clauses. -/
def whereFragment (clauses : List Clause) : Fragment :=
  if clauses.isEmpty then [] else .word " WHERE " :: conjunction clauses

end Clause

end SqlCraft
