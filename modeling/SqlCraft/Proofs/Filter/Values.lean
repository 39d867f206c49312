/-
**The values that filters bind.**

The SQL of a filter binds the values that the filter holds, in order, except for nulls: a comparison with
null is a test of its own and has no placeholder.

* `Filter.values` — the values of a filter that are not null;
* `params_conjunction` — the parameters of its SQL.
-/

import SqlCraft.Filter.Clause
import SqlCraft.Proofs.Compiled
import SqlCraft.Proofs.Sql.Lexeme

namespace SqlCraft

open Sql (Operator Joiner ColumnName Fragment)

/-! ### The values of a filter -/

/-- The values of a condition that are not null. -/
def Condition.values (condition : Condition) : List Value :=
  (condition.comparisons.map Prod.snd).filter fun value => !value.isNull

mutual

/-- The values of a criterion that are not null, in order. -/
def Criterion.values : Criterion → List Value
  | .field _ condition => condition.values
  | .group _ members => memberValues members

/-- The values of criteria that are not null. -/
def criteriaValues : List Criterion → List Value
  | [] => []
  | criterion :: rest => criterion.values ++ criteriaValues rest

/-- The values of the members of a group that are not null. -/
def memberValues : List (List Criterion) → List Value
  | [] => []
  | member :: rest => criteriaValues member ++ memberValues rest

end

/-- The values of a filter that are not null, in order. -/
def Filter.values (filter : Filter) : List Value := criteriaValues filter

/-! ### The parameters of its SQL -/

theorem Test.params_ofComparison {column : ColumnName} {comparison : Operator × Value} {asked : Test}
    (compiled : Test.ofComparison column comparison = .ok asked) :
    (asked.fragment column).params = if comparison.2.isNull then [] else [comparison.2] := by
  obtain ⟨operator, value⟩ := comparison
  cases operator <;> cases value <;> cases compiled <;> rfl

theorem Condition.params_compile {column : ColumnName} {condition : Condition} {clause : Clause}
    (compiled : condition.compile column = .ok clause) : clause.fragment.params = condition.values := by
  unfold Condition.compile at compiled
  split at compiled
  · cases compiled
  obtain ⟨tests, ran, rfl⟩ := map_eq_ok compiled
  rw [Clause.fragment, Fragment.params_join, List.flatMap_map, Condition.values]
  generalize condition.comparisons = comparisons at ran ⊢
  have each := mapM_eq_ok ran
  clear compiled ran
  induction each with
  | nil => rfl
  | @cons comparison asked rest tests here _ ih =>
    rw [List.flatMap_cons, ih, Test.params_ofComparison here, List.map_cons, List.filter_cons]
    cases comparison.2.isNull <;> rfl

/-- A member has the values of its clauses, in brackets or not. -/
theorem params_member (clauses : List Clause) :
    Fragment.params (let joined := Fragment.join " AND " (Clause.fragments clauses)
      if Clause.isCompound clauses then Fragment.parenthesized joined else joined) =
      (Clause.fragments clauses).flatMap Fragment.params := by
  dsimp only
  split
  · rw [Fragment.params_parenthesized, Fragment.params_join]
  · rw [Fragment.params_join]

mutual

theorem Criterion.params_compile (table : Table) : ∀ (criterion : Criterion) {clause : Clause},
    criterion.compile table = .ok clause → clause.fragment.params = criterion.values
  | .field name condition, clause, compiled => by
    rw [Criterion.compile] at compiled
    obtain ⟨_, _, compiled⟩ := bind_eq_ok compiled
    exact Condition.params_compile compiled
  | .group joiner [], clause, compiled => by
    rw [Criterion.compile] at compiled
    cases compiled
  | .group joiner (first :: rest), clause, compiled => by
    rw [Criterion.compile] at compiled
    obtain ⟨members, ran, rfl⟩ := map_eq_ok compiled
    rw [Clause.fragment, Fragment.params_parenthesized, Fragment.params_join, Criterion.values]
    exact params_compileMembers table joiner (first :: rest) ran

theorem params_compileCriteria (table : Table) : ∀ (criteria : List Criterion)
    {clauses : List Clause}, compileCriteria table criteria = .ok clauses →
    (Clause.fragments clauses).flatMap Fragment.params = criteriaValues criteria
  | [], clauses, compiled => by
    cases compiled
    rfl
  | criterion :: rest, clauses, compiled => by
    rw [compileCriteria] at compiled
    obtain ⟨clause, first, compiled⟩ := bind_eq_ok compiled
    obtain ⟨others, later, compiled⟩ := bind_eq_ok compiled
    cases compiled
    rw [Clause.fragments, List.flatMap_cons, criterion.params_compile table first,
      params_compileCriteria table rest later, criteriaValues]

theorem params_compileMembers (table : Table) (joiner : Joiner) : ∀ (members : List (List Criterion))
    {compiledMembers : List (List Clause)}, compileMembers table joiner members = .ok compiledMembers →
    (Clause.memberFragments compiledMembers).flatMap Fragment.params = memberValues members
  | [], compiledMembers, compiled => by
    cases compiled
    rfl
  | member :: rest, compiledMembers, compiled => by
    rw [compileMembers] at compiled
    obtain ⟨clauses, first, compiled⟩ := bind_eq_ok compiled
    by_cases none : clauses.isEmpty
    · rw [if_pos none] at compiled
      cases compiled
    rw [if_neg none] at compiled
    obtain ⟨others, later, compiled⟩ := bind_eq_ok compiled
    cases compiled
    rw [Clause.memberFragments, List.flatMap_cons, params_member,
      params_compileCriteria table member first, params_compileMembers table joiner rest later,
      memberValues]

end

/-- **The SQL of a filter binds the values that are not null**, in order. -/
theorem params_conjunction {table : Table} {filter : Filter} {clauses : List Clause}
    (compiled : filter.compile table = .ok clauses) :
    (Clause.conjunction clauses).params = filter.values := by
  rw [Clause.conjunction, Fragment.params_join]
  exact params_compileCriteria table filter compiled

end SqlCraft
