/-
**Conditions written to two lists.**

A condition can be written without a fragment: its terms to a list of texts, the values of its placeholders
to a list of their own. A criterion adds one text to the first list and its values to the second. The members
of a group are written to lists of their own first; their texts become one term, their values are handed on.

No place in a text is tied to a value then. Still, the terms are the texts of the compiled clauses, and the
values are those in their slots, clause by clause:

* `WhereClause` — the two lists, and `WhereClause.put`, a fragment behind what is there;
* `Filter.emit` — a filter is written to them;
* `isCompound_compile` — which members of a group need brackets is told by the filter or by its clauses;
* `Filter.emit_eq` — writing a filter is compiling it, and its offences are the same.
-/

import SqlCraft.Filter.Clause
import SqlCraft.Proofs.Compiled
import SqlCraft.Proofs.Sql.Lexeme

namespace SqlCraft

open Sql (Operator Joiner ColumnName Fragment Piece qualified)

/-! ### The two lists -/

/-- The terms of a condition, and the values of their placeholders from left to right. -/
structure WhereClause where
  terms : List String
  params : List Value

namespace WhereClause

/-- Nothing is written yet. -/
def empty : WhereClause := ⟨[], []⟩

/-- Whether nothing is asked. -/
def isEmpty (written : WhereClause) : Bool := written.terms.isEmpty

/-- All terms as one text. -/
def sql (written : WhereClause) : String := String.intercalate " AND " written.terms

/-- What another condition has to say behind what is written. -/
def extend (written other : WhereClause) : WhereClause :=
  ⟨written.terms ++ other.terms, written.params ++ other.params⟩

/-- The text of a fragment behind the terms, and its values behind the values. -/
def put (written : WhereClause) (fragment : Fragment) : WhereClause :=
  ⟨written.terms ++ [fragment.text], written.params ++ fragment.params⟩

/-- What fragments say, one term for each. -/
def ofFragments (fragments : List Fragment) : WhereClause :=
  ⟨fragments.map Fragment.text, fragments.flatMap Fragment.params⟩

@[simp] theorem extend_nil (written : WhereClause) : written.extend (ofFragments []) = written := by
  simp [extend, ofFragments]

@[simp] theorem extend_put (written : WhereClause) (fragment : Fragment) (fragments : List Fragment) :
    (written.put fragment).extend (ofFragments fragments) =
      written.extend (ofFragments (fragment :: fragments)) := by
  simp [put, extend, ofFragments]

theorem foldl_put {α : Type} (view : α → Fragment) (list : List α) (written : WhereClause) :
    list.foldl (fun written element => written.put (view element)) written =
      written.extend (ofFragments (list.map view)) := by
  induction list generalizing written with
  | nil => exact written.extend_nil.symm
  | cons element rest ih => rw [List.foldl_cons, ih, extend_put, List.map_cons]

/-- The terms as one text are the text of the fragments joined by `AND`. -/
theorem sql_ofFragments (fragments : List Fragment) :
    (ofFragments fragments).sql = (Fragment.join " AND " fragments).text :=
  (Fragment.text_join " AND " fragments).symm

theorem params_ofFragments (fragments : List Fragment) :
    (ofFragments fragments).params = (Fragment.join " AND " fragments).params :=
  (Fragment.params_join " AND " fragments).symm

end WhereClause

/-- A column in text. -/
theorem Sql.ColumnName.text_fragment (column : ColumnName) :
    column.fragment.text = qualified column.table column.field := by
  simp [ColumnName.fragment, qualified, Piece.text, String.append_assoc]

@[simp] theorem Sql.ColumnName.params_fragment (column : ColumnName) : column.fragment.params = [] := rfl

/-! ### Writing -/

/-- A comparison is written, or refused if it orders null. -/
def emitComparison (column : ColumnName) (written : WhereClause) (comparison : Operator × Value) :
    Compiled WhereClause :=
  let name := qualified column.table column.field
  if comparison.2.isNull then
    match comparison.1 with
    | .equal => .ok ⟨written.terms ++ [name ++ " IS NULL"], written.params⟩
    | .not => .ok ⟨written.terms ++ [name ++ " IS NOT NULL"], written.params⟩
    | operator => .error (.nullOrdering column.table column.field operator)
  else
    .ok ⟨written.terms ++ [name ++ " " ++ comparison.1.sign ++ " ?"], written.params ++ [comparison.2]⟩

/-- A condition is written as one term. The texts of its comparisons are collected apart from the terms
that are there, the values behind the values. -/
def Condition.emit (column : ColumnName) (written : WhereClause) (condition : Condition) :
    Compiled WhereClause :=
  if condition.comparisons.isEmpty then
    .error (.descriptor (.noOperator column.table column.field))
  else do
    let own ← condition.comparisons.foldlM (emitComparison column) ⟨[], written.params⟩
    return ⟨written.terms ++ [own.sql], own.params⟩

/-- Whether a filter is written as more than one test or group. -/
def Filter.isCompound : Filter → Bool
  | [.field _ condition] => 1 < condition.comparisons.length
  | filter => 1 < filter.length

mutual

/-- A criterion is written as one term. -/
def Criterion.emit (table : Table) (written : WhereClause) : Criterion → Compiled WhereClause
  | .field name condition => do
    table.require name
    condition.emit ⟨table.name, name⟩ written
  | .group joiner members =>
    match members with
    | [] => .error (.descriptor (.emptyGroup joiner table.name))
    | first :: rest => do
      let own ← emitMembers table joiner ⟨[], written.params⟩ (first :: rest)
      let term := "(" ++ String.intercalate (" " ++ joiner.keyword ++ " ") own.terms ++ ")"
      return ⟨written.terms ++ [term], own.params⟩

/-- Criteria are written, one term for each. -/
def emitCriteria (table : Table) (written : WhereClause) : List Criterion → Compiled WhereClause
  | [] => .ok written
  | criterion :: rest => do
    emitCriteria table (← criterion.emit table written) rest

/-- The members of a group are written, one term for each, in brackets if it is compound. -/
def emitMembers (table : Table) (joiner : Joiner) (written : WhereClause) :
    List (List Criterion) → Compiled WhereClause
  | [] => .ok written
  | member :: rest => do
    let own ← emitCriteria table .empty member
    if own.isEmpty then throw (.descriptor (.emptyMember joiner table.name))
    let term := if Filter.isCompound member then "(" ++ own.sql ++ ")" else own.sql
    emitMembers table joiner ⟨written.terms ++ [term], written.params ++ own.params⟩ rest

end

/-- A filter is written. -/
def Filter.emit (table : Table) (filter : Filter) : Compiled WhereClause :=
  emitCriteria table .empty filter

/-! ### What is written -/

theorem emitComparison_eq (column : ColumnName) (written : WhereClause) (comparison : Operator × Value) :
    emitComparison column written comparison =
      (Test.ofComparison column comparison).map fun test => written.put (test.fragment column) := by
  obtain ⟨operator, value⟩ := comparison
  have put (test : Fragment) : written.put (column.fragment ++ test) =
      ⟨written.terms ++ [qualified column.table column.field ++ test.text],
        written.params ++ test.params⟩ := by
    rw [WhereClause.put, Fragment.text_append, column.text_fragment, Fragment.params_append,
      column.params_fragment, List.nil_append]
  have asks (word : String) : written.put (column.fragment ++ [.word word]) =
      ⟨written.terms ++ [qualified column.table column.field ++ word], written.params⟩ := by
    rw [put]
    simp [Piece.text, Fragment.params, Piece.param?]
  by_cases null : value = .null
  · subst null
    cases operator with
    | equal => exact congrArg Except.ok (asks " IS NULL").symm
    | not => exact congrArg Except.ok (asks " IS NOT NULL").symm
    | lt | lte | gt | gte => rfl
  · have filled : value.isNull = false ∧
        Test.ofComparison column (operator, value) = .ok (.compare operator value) := by
      cases value with
      | null => exact absurd rfl null
      | _ => cases operator <;> exact ⟨rfl, rfl⟩
    have text : Fragment.text [.word (" " ++ operator.sign ++ " "), .slot value] =
        " " ++ operator.sign ++ " ?" := by
      simp [Piece.text, String.append_assoc]
    rw [filled.2, Except.map, Test.fragment, put, text, emitComparison, filled.1]
    simp only [String.append_assoc]
    rfl

theorem Condition.emit_eq (column : ColumnName) (written : WhereClause) (condition : Condition) :
    condition.emit column written =
      (condition.compile column).map fun clause => written.put clause.fragment := by
  unfold emit compile
  split
  · rfl
  · rw [foldlM_eq_map (emitComparison_eq column)]
    cases condition.comparisons.mapM (Test.ofComparison column) with
    | error cause => rfl
    | ok tests =>
      have own := WhereClause.foldl_put (Test.fragment column) tests ⟨[], written.params⟩
      show Except.ok (WhereClause.mk _ _) = Except.ok (WhereClause.mk _ _)
      simp only [own, Clause.fragment, Fragment.text_join, Fragment.params_join]
      rfl

/-- **Which members of a group need brackets is told by the filter or by its clauses.** -/
theorem isCompound_compile {table : Table} {filter : Filter} {clauses : List Clause}
    (compiled : compileCriteria table filter = .ok clauses) :
    filter.isCompound = Clause.isCompound clauses := by
  cases filter with
  | nil =>
    cases compiled
    rfl
  | cons criterion rest =>
    obtain ⟨clause, here, compiled⟩ := bind_eq_ok compiled
    obtain ⟨others, later, compiled⟩ := bind_eq_ok compiled
    cases compiled
    cases rest with
    | cons second rest =>
      obtain ⟨next, _, later⟩ := bind_eq_ok later
      obtain ⟨further, _, later⟩ := bind_eq_ok later
      cases later
      cases criterion <;> cases clause <;> simp [Filter.isCompound, Clause.isCompound]
    | nil =>
      cases later
      cases criterion with
      | field name condition =>
        obtain ⟨-, -, here⟩ := bind_eq_ok here
        rw [Condition.compile] at here
        split at here
        · cases here
        · obtain ⟨tests, ran, rfl⟩ := map_eq_ok here
          have many := (mapM_eq_ok ran).length_eq
          rw [Filter.isCompound, Clause.isCompound, many]
      | group joiner members =>
        cases members with
        | nil => cases here
        | cons first rest =>
          obtain ⟨found, -, rfl⟩ := map_eq_ok here
          rfl

/-- A member of a group is put behind the others, in brackets if it is compound. -/
theorem WhereClause.put_member (written : WhereClause) {table : Table} {filter : Filter}
    {clauses : List Clause} (compiled : compileCriteria table filter = .ok clauses) :
    let own := ofFragments (Clause.fragments clauses)
    WhereClause.mk (written.terms ++ [if filter.isCompound then "(" ++ own.sql ++ ")" else own.sql])
        (written.params ++ own.params) =
      written.put (if Clause.isCompound clauses then Fragment.parenthesized (Clause.conjunction clauses)
        else Clause.conjunction clauses) := by
  intro own
  have sql : own.sql = (Clause.conjunction clauses).text := sql_ofFragments _
  have params : own.params = (Clause.conjunction clauses).params := params_ofFragments _
  rw [isCompound_compile compiled, sql, params, put]
  split
  · rw [Fragment.params_parenthesized, Fragment.parenthesized, Fragment.text_append, Fragment.text_cons]
    simp [Piece.text]
  · rfl

mutual

theorem Criterion.emit_eq (table : Table) (written : WhereClause) :
    ∀ criterion : Criterion, criterion.emit table written =
      (criterion.compile table).map fun clause => written.put clause.fragment
  | .field name condition => by
    rw [Criterion.emit, Criterion.compile]
    exact bind_commutes fun _ => condition.emit_eq ⟨table.name, name⟩ written
  | .group joiner [] => rfl
  | .group joiner (first :: rest) => by
    rw [Criterion.emit, Criterion.compile, emitMembers_eq table joiner _ (first :: rest)]
    cases compileMembers table joiner (first :: rest) with
    | error cause => rfl
    | ok members =>
      show Except.ok (WhereClause.mk _ _) = Except.ok (WhereClause.mk _ _)
      rw [Clause.fragment, Fragment.params_parenthesized, Fragment.params_join, Fragment.parenthesized,
        Fragment.text_append, Fragment.text_cons, Fragment.text_join]
      simp [WhereClause.extend, WhereClause.ofFragments, Piece.text]

theorem emitCriteria_eq (table : Table) (written : WhereClause) :
    ∀ criteria : List Criterion, emitCriteria table written criteria =
      (compileCriteria table criteria).map fun clauses =>
        written.extend (.ofFragments (Clause.fragments clauses))
  | [] => by
    exact congrArg Except.ok written.extend_nil.symm
  | criterion :: rest => by
    rw [emitCriteria, compileCriteria, criterion.emit_eq table written]
    refine map_bind_commutes fun clause => ?_
    rw [emitCriteria_eq table _ rest]
    cases compileCriteria table rest with
    | error cause => rfl
    | ok clauses => exact congrArg Except.ok (written.extend_put _ _)

theorem emitMembers_eq (table : Table) (joiner : Joiner) (written : WhereClause) :
    ∀ members : List (List Criterion), emitMembers table joiner written members =
      (compileMembers table joiner members).map fun members =>
        written.extend (.ofFragments (Clause.memberFragments members))
  | [] => by
    exact congrArg Except.ok written.extend_nil.symm
  | member :: rest => by
    rw [emitMembers, compileMembers, emitCriteria_eq table .empty member]
    cases compiled : compileCriteria table member with
    | error cause => rfl
    | ok clauses =>
      cases clauses with
      | nil => rfl
      | cons clause others =>
        have put := written.put_member compiled
        refine (congrArg (fun state => emitMembers table joiner state rest) put).trans ?_
        rw [emitMembers_eq table joiner _ rest]
        cases compileMembers table joiner rest with
        | error cause => rfl
        | ok members => exact congrArg Except.ok (written.extend_put _ _)

end

/-- **A filter is written as its clauses say**, each clause as one term and the values of all of them one
behind the other, or it is refused for the same reason. -/
theorem Filter.emit_eq (table : Table) (filter : Filter) :
    filter.emit table =
      (filter.compile table).map fun clauses => .ofFragments (Clause.fragments clauses) :=
  emitCriteria_eq table .empty filter

end SqlCraft
