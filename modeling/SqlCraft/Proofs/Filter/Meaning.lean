/-
**What filters mean, and that their SQL means the same.**

A filter has a value on a row of its table: the criteria of a filter must all hold, the members of
a group are joined by the group's own operator, and so are the comparisons of a field. Equality with
null asks whether the column is null, and `not` with null whether it is not.

* `Filter.truth` — the value of a filter on a row;
* `compileCriteria_reads` — the clauses of a filter are read as conjuncts with its value;
* `read?_conjunction` — the text of the clauses, read with the precedence of SQL and with the
  parameters in their places, has the value of the filter on every row.
-/

import SqlCraft.Proofs.Compiled
import SqlCraft.Proofs.Sql.ReadBack

namespace SqlCraft

open Sql (Operator Joiner ColumnName Fragment Predicate Relation Truth)

/-! ### The value of a filter -/

/-- The value of a comparison with what a column holds. -/
def Condition.comparisonTruth (relation : Relation) (held : Value) : Operator × Value → Truth
  | (.equal, .null) => .ofBool held.isNull
  | (.not, .null) => .ofBool !held.isNull
  | (operator, value) => relation.truth operator held value

/-- The value of a condition on what a column holds. -/
def Condition.truth (relation : Relation) (held : Value) (condition : Condition) : Truth :=
  .all (condition.comparisons.map (comparisonTruth relation held))

/-- The value of a group whose members have the given values. -/
def Sql.Joiner.truth : Joiner → List Truth → Truth
  | .and => .all
  | .or => .any

section

variable (relation : Relation) (row : String → Value)

mutual

/-- The value of a criterion on a row. -/
def Criterion.truth : Criterion → Truth
  | .field name condition => condition.truth relation (row name)
  | .group joiner members => joiner.truth (memberTruths members)

/-- The value of criteria that all must hold. -/
def criteriaTruth : List Criterion → Truth
  | [] => .holds
  | criterion :: rest => .and criterion.truth (criteriaTruth rest)

/-- The values of the members of a group. -/
def memberTruths : List (List Criterion) → List Truth
  | [] => []
  | member :: rest => criteriaTruth member :: memberTruths rest

end

/-- The value of a filter on a row. -/
def Filter.truth (filter : Filter) : Truth := criteriaTruth relation row filter

end

/-! ### Compiled conditions -/

/-- The test of a comparison has its value. -/
theorem Test.truth_ofComparison {column : ColumnName} {comparison : Operator × Value} {asked : Test}
    (compiled : Test.ofComparison column comparison = .ok asked) (relation : Relation)
    (held : Value) : relation.test held asked = Condition.comparisonTruth relation held comparison := by
  obtain ⟨operator, value⟩ := comparison
  cases operator <;> cases value <;> cases compiled <;> rfl

theorem Test.truths_ofComparisons {column : ColumnName} {comparisons : List (Operator × Value)}
    {tests : List Test} (compiled : comparisons.mapM (Test.ofComparison column) = .ok tests)
    (relation : Relation) (held : Value) :
    tests.map (relation.test held) =
      comparisons.map (Condition.comparisonTruth relation held) := by
  have each := mapM_eq_ok compiled
  clear compiled
  induction each with
  | nil => rfl
  | cons here _ ih => rw [List.map_cons, List.map_cons, Test.truth_ofComparison here, ih]

/-- Tests of one column are read as conjuncts. -/
theorem reads_column (column : ColumnName) {tests : List Test} (some : tests ≠ []) :
    (Clause.column column tests).fragment.Reads [tests.map (Predicate.test column)] := by
  obtain ⟨asked, rest, rfl⟩ := List.exists_cons_of_ne_nil some
  have others : List.Forall₂ (fun fragment part => Fragment.Reads fragment [part])
      (rest.map (Test.fragment column)) (rest.map fun asked => [Predicate.test column asked]) := by
    rw [List.forall₂_map_left_iff, List.forall₂_map_right_iff]
    exact List.forall₂_same.2 fun asked _ => Fragment.Reads.test column asked
  have single : (rest.map fun asked => [Predicate.test column asked]).flatten =
      rest.map (Predicate.test column) := by
    rw [← List.flatMap_def, ← List.map_eq_flatMap]
  have whole := Fragment.Reads.conjunction (Fragment.Reads.test column asked) others
  rw [List.flatten_cons, single] at whole
  rw [Clause.fragment, List.map_cons, List.map_cons]
  exact whole

/-- The clause of a condition is read as conjuncts with its value. -/
theorem Condition.compile_reads {column : ColumnName} {condition : Condition} {clause : Clause}
    (compiled : condition.compile column = .ok clause) :
    ∃ conjuncts, clause.fragment.Reads [conjuncts] ∧
      ∀ relation row, Predicate.allTruth relation row conjuncts =
        condition.truth relation (row column) := by
  unfold Condition.compile at compiled
  split at compiled
  · cases compiled
  · rename_i some
    cases ran : condition.comparisons.mapM (Test.ofComparison column) with
    | error cause =>
      rw [ran] at compiled
      cases compiled
    | ok tests =>
      rw [ran] at compiled
      cases compiled
      have truths := Test.truths_ofComparisons ran
      have tested : tests ≠ [] := by
        rintro rfl
        have none := truths ⟨fun _ _ _ => .unknown⟩ .null
        exact some (List.isEmpty_iff.2 (List.map_eq_nil_iff.1 none.symm))
      refine ⟨_, reads_column column tested, fun relation row => ?_⟩
      rw [Predicate.allTruth_eq, List.map_map, Condition.truth, ← truths relation (row column)]
      rfl

/-! ### Compiled filters -/

/-- A member of a group is read as conjuncts, in brackets or not. -/
theorem reads_member {clauses : List Clause} {parts : List (List Predicate)}
    (some : clauses ≠ [])
    (reads : List.Forall₂ (fun fragment part => Fragment.Reads fragment [part])
      (Clause.fragments clauses) parts) :
    ∃ conjuncts, Fragment.Reads
        (let joined := Fragment.join " AND " (Clause.fragments clauses)
          if Clause.isCompound clauses then Fragment.parenthesized joined else joined) [conjuncts] ∧
      ∀ relation row, Predicate.allTruth relation row conjuncts =
        Predicate.allTruth relation row parts.flatten := by
  obtain ⟨clause, rest, rfl⟩ := List.exists_cons_of_ne_nil some
  rw [Clause.fragments] at reads ⊢
  cases reads with
  | cons first others =>
    have joined := Fragment.Reads.conjunction first others
    by_cases compound : Clause.isCompound (clause :: rest)
    · refine ⟨_, by simpa only [compound, if_true] using joined.parenthesized,
        fun relation row => ?_⟩
      simp only [Predicate.allTruth, Predicate.truth, Predicate.anyTruth, Truth.or_fails,
        Truth.and_holds]
    · exact ⟨_, by simpa only [compound, Bool.false_eq_true, if_false] using joined, fun _ _ => rfl⟩

mutual

/-- The clause of a criterion is read as conjuncts with its value. -/
theorem Criterion.compile_reads (table : Table) : ∀ (criterion : Criterion) {clause : Clause},
    criterion.compile table = .ok clause →
    ∃ conjuncts, clause.fragment.Reads [conjuncts] ∧
      ∀ relation row, Predicate.allTruth relation row conjuncts =
        criterion.truth relation fun field => row ⟨table.name, field⟩
  | .field name condition, clause, compiled => by
    rw [Criterion.compile] at compiled
    obtain ⟨_, _, compiled⟩ := bind_eq_ok compiled
    obtain ⟨conjuncts, reads, truth⟩ := Condition.compile_reads compiled
    refine ⟨conjuncts, reads, fun relation row => ?_⟩
    rw [truth, Criterion.truth]
  | .group joiner [], clause, compiled => by
    rw [Criterion.compile] at compiled
    cases compiled
  | .group joiner (first :: rest), clause, compiled => by
    rw [Criterion.compile] at compiled
    cases ran : compileMembers table joiner (first :: rest) with
    | error cause =>
      rw [ran] at compiled
      cases compiled
    | ok members =>
      rw [ran] at compiled
      cases compiled
      obtain ⟨parts, reads, truths⟩ := compileMembers_reads table joiner (first :: rest) ran
      rw [Clause.fragment]
      generalize Clause.memberFragments members = fragments at reads ⊢
      cases reads with
      | nil => exact absurd (truths ⟨fun _ _ _ => .unknown⟩ fun _ => .null) (by simp [memberTruths])
      | cons firstReads others =>
        rename_i fragment conjuncts fragments parts
        cases joiner with
        | and =>
          have joined := (Fragment.Reads.conjunction firstReads others).parenthesized
          refine ⟨_, joined, fun relation row => ?_⟩
          rw [Criterion.truth, Joiner.truth, ← truths relation row]
          simp only [Predicate.allTruth, Predicate.truth, Predicate.anyTruth, Truth.or_fails,
            Truth.and_holds]
          rw [Predicate.allTruth_eq, List.map_flatten, Truth.all_flatten, List.map_map]
          congr 1
          exact List.map_congr_left fun part _ => (Predicate.allTruth_eq relation row part).symm
        | or =>
          have joined := (Fragment.Reads.disjunction firstReads others).parenthesized
          refine ⟨_, joined, fun relation row => ?_⟩
          rw [Criterion.truth, Joiner.truth, ← truths relation row, ← Predicate.anyTruth_eq]
          simp only [Predicate.allTruth, Predicate.truth, Truth.and_holds]

/-- The clauses of criteria are read as conjuncts with their value. -/
theorem compileCriteria_reads (table : Table) : ∀ (criteria : List Criterion) {clauses : List Clause},
    compileCriteria table criteria = .ok clauses →
    ∃ parts, List.Forall₂ (fun fragment part => Fragment.Reads fragment [part])
        (Clause.fragments clauses) parts ∧
      ∀ relation row, Predicate.allTruth relation row parts.flatten =
        criteriaTruth relation (fun field => row ⟨table.name, field⟩) criteria
  | [], clauses, compiled => by
    cases compiled
    exact ⟨[], .nil, fun _ _ => rfl⟩
  | criterion :: rest, clauses, compiled => by
    rw [compileCriteria] at compiled
    obtain ⟨clause, first, compiled⟩ := bind_eq_ok compiled
    obtain ⟨others, later, compiled⟩ := bind_eq_ok compiled
    cases compiled
    obtain ⟨conjuncts, reads, truth⟩ := criterion.compile_reads table first
    obtain ⟨parts, readsRest, truthRest⟩ := compileCriteria_reads table rest later
    refine ⟨conjuncts :: parts, .cons reads readsRest, fun relation row => ?_⟩
    rw [List.flatten_cons, Predicate.allTruth_eq, List.map_append, Truth.all_append,
      ← Predicate.allTruth_eq, ← Predicate.allTruth_eq, truth, truthRest, criteriaTruth]

/-- Each member of a group is read as conjuncts with its value. -/
theorem compileMembers_reads (table : Table) (joiner : Joiner) :
    ∀ (members : List (List Criterion)) {compiledMembers : List (List Clause)},
    compileMembers table joiner members = .ok compiledMembers →
    ∃ parts, List.Forall₂ (fun fragment part => Fragment.Reads fragment [part])
        (Clause.memberFragments compiledMembers) parts ∧
      ∀ relation row, parts.map (Predicate.allTruth relation row) =
        memberTruths relation (fun field => row ⟨table.name, field⟩) members
  | [], compiledMembers, compiled => by
    cases compiled
    exact ⟨[], .nil, fun _ _ => rfl⟩
  | member :: rest, compiledMembers, compiled => by
    rw [compileMembers] at compiled
    obtain ⟨clauses, first, compiled⟩ := bind_eq_ok compiled
    obtain ⟨parts, reads, truth⟩ := compileCriteria_reads table member first
    by_cases none : clauses.isEmpty
    · rw [if_pos none] at compiled
      cases compiled
    · rw [if_neg none] at compiled
      obtain ⟨others, later, compiled⟩ := bind_eq_ok compiled
      cases compiled
      obtain ⟨conjuncts, readsMember, same⟩ :=
        reads_member (fun empty => none (List.isEmpty_iff.2 empty)) reads
      obtain ⟨partsRest, readsRest, truthsRest⟩ := compileMembers_reads table joiner rest later
      refine ⟨conjuncts :: partsRest, .cons readsMember readsRest, fun relation row => ?_⟩
      rw [List.map_cons, same, truth, truthsRest, memberTruths]

end

/-- A filter has no clauses exactly if it asks nothing. -/
theorem compileCriteria_eq_nil_iff {table : Table} {criteria : List Criterion}
    {clauses : List Clause} (compiled : compileCriteria table criteria = .ok clauses) :
    clauses = [] ↔ criteria = [] := by
  cases criteria with
  | nil =>
    cases compiled
    simp
  | cons criterion rest =>
    rw [compileCriteria] at compiled
    obtain ⟨clause, _, compiled⟩ := bind_eq_ok compiled
    obtain ⟨others, _, compiled⟩ := bind_eq_ok compiled
    cases compiled
    simp

/-- **The SQL of a filter means what the filter means.** -/
theorem read?_conjunction (table : Table) (filter : Filter) (clauses : List Clause)
    (compiled : filter.compile table = .ok clauses) :
    ∃ predicate, Predicate.read? (Clause.conjunction clauses).text
        (Clause.conjunction clauses).params = some predicate ∧
      ∀ relation row, predicate.truth relation row =
        filter.truth relation fun field => row ⟨table.name, field⟩ := by
  obtain ⟨parts, reads, truth⟩ := compileCriteria_reads table filter compiled
  unfold Clause.conjunction
  generalize Clause.fragments clauses = fragments at reads ⊢
  cases reads with
  | nil =>
    refine ⟨.oneOf [[]], Predicate.read?_empty, fun relation row => ?_⟩
    exact truth relation row
  | cons first others =>
    refine ⟨_, (Fragment.Reads.conjunction first others).read?, fun relation row => ?_⟩
    rw [Predicate.truth_oneOf_singleton]
    exact truth relation row

/-- A member of two tests stands in brackets of its own, one of a single test does not. -/
theorem read?_conjunction_group :
    let table : Table := ⟨"t", [{ name := "a", type := .int }, { name := "b", type := .varchar }]⟩
    let filter : Filter := (Filter.empty.eq "b" "x").or
      [(Filter.empty.op "a" .gt (1 : Int64)).op "a" .lt (5 : Int64), Filter.empty.isNull "b"]
    let clauses : List Clause := [.column ⟨"t", "b"⟩ [.compare .equal (.text "x")],
      .group .or [[.column ⟨"t", "a"⟩ [.compare .gt (.int 1), .compare .lt (.int 5)]],
        [.column ⟨"t", "b"⟩ [.isNull]]]]
    filter.compile table = .ok clauses ∧
    (Clause.conjunction clauses).text =
      "`t`.`b` = ? AND ((`t`.`a` > ? AND `t`.`a` < ?) OR `t`.`b` IS NULL)" ∧
    ∃ predicate, Predicate.read? (Clause.conjunction clauses).text
        (Clause.conjunction clauses).params = some predicate ∧
      ∀ relation row, predicate.truth relation row =
        filter.truth relation fun field => row ⟨table.name, field⟩ :=
  ⟨rfl, rfl, read?_conjunction _ _ _ rfl⟩

end SqlCraft
