/-
**Filters ask for null by name.**

A comparison with null that equals or differs is compiled to a test of its own, and one that orders is
refused. The tokens of a test stand unbroken among those of its clause, however deep the groups around it
are. So a filter that compiles binds no null, and each null that it holds can be found in its condition as
`IS NULL` or `IS NOT NULL` behind the column that is compared with it.

* `Filter.NamesNulls` — the nulls of a filter are asked for by name;
* `compileCriteria_asks` — the tests of all comparisons are found in the clauses;
* `Filter.namesNulls_of_compile` — so are those for null;
* `Filter.null_not_mem_params` — and no null is bound.
-/

import SqlCraft.Proofs.Filter.Offence
import SqlCraft.Proofs.Filter.Tokens
import SqlCraft.Proofs.Filter.Values

namespace SqlCraft

open Sql

/-- Where a filter of a table compares a column with null, the condition has `IS NULL` behind the column if
it is to equal null, and `IS NOT NULL` if it is not to. It is compared with null in no other way. -/
def Filter.NamesNulls (filter : Filter) (table : String) (condition : List Token) : Prop :=
  ∀ name operator, .comparison name operator .null ∈ filter.places →
    (operator = .equal ∧
      (ColumnName.mk table name).tokens ++ [.symbol "IS", .symbol "NULL"] <:+: condition) ∨
    (operator = .not ∧
      (ColumnName.mk table name).tokens ++ [.symbol "IS", .symbol "NOT", .symbol "NULL"] <:+: condition)

/-! ### Parts of conditions -/

theorem infix_intercalate_of_mem {part : List Token} {parts : List (List Token)} (inside : part ∈ parts)
    (separator : List Token) : part <:+: separator.intercalate parts := by
  induction parts with
  | nil => cases inside
  | cons first rest ih =>
    cases rest with
    | nil =>
      cases List.mem_singleton.1 inside
      simp
    | cons next rest =>
      rw [List.intercalate_cons_cons]
      rcases List.mem_cons.1 inside with rfl | later
      · rw [List.append_assoc]
        exact (List.prefix_append _ _).isInfix
      · exact (ih later).trans (List.suffix_append _ _).isInfix

theorem infix_bracketed (tokens : List Token) : tokens <:+: bracketed tokens :=
  ⟨[.symbol "("], [.symbol ")"], rfl⟩

theorem Clause.tokensEach_eq_map (clauses : List Clause) : tokensEach clauses = clauses.map tokens := by
  induction clauses with
  | nil => rfl
  | cons clause rest ih => rw [tokensEach, ih, List.map_cons]

/-- A clause stands unbroken among the clauses that it is joined with. -/
theorem Clause.infix_conjunction {clause : Clause} {clauses : List Clause} (inside : clause ∈ clauses) :
    clause.tokens <:+: [Token.symbol "AND"].intercalate (tokensEach clauses) :=
  infix_intercalate_of_mem (tokensEach_eq_map clauses ▸ List.mem_map_of_mem inside) _

/-- A member of a group stands unbroken in it, in brackets or not. -/
theorem Clause.infix_member (member : List Clause) :
    [Token.symbol "AND"].intercalate (tokensEach member) <:+:
      (let joined := [Token.symbol "AND"].intercalate (tokensEach member)
        if isCompound member then bracketed joined else joined) := by
  dsimp only
  split
  · exact infix_bracketed _
  · exact List.infix_refl _

/-! ### Comparisons -/

/-- The test of a comparison is found among tokens. -/
def Asks (table : Table) (name : String) (comparison : Operator × Value) (tokens : List Token) : Prop :=
  ∃ asked, Test.ofComparison ⟨table.name, name⟩ comparison = .ok asked ∧
    asked.tokens ⟨table.name, name⟩ <:+: tokens

theorem Asks.mono {table : Table} {name : String} {comparison : Operator × Value}
    {tokens whole : List Token} (asks : Asks table name comparison tokens) (inside : tokens <:+: whole) :
    Asks table name comparison whole := by
  obtain ⟨asked, compiled, found⟩ := asks
  exact ⟨asked, compiled, found.trans inside⟩

section

variable {table : Table} {name : String} {operator : Operator} {value : Value}

theorem Condition.compile_asks {field : String} {condition : Condition} {clause : Clause}
    (compiled : condition.compile ⟨table.name, field⟩ = .ok clause)
    (among : .comparison name operator value ∈ condition.places field) :
    Asks table name (operator, value) clause.tokens := by
  obtain ⟨inside, rfl⟩ : (operator, value) ∈ condition.comparisons ∧ field = name := by
    simpa [places] using among
  unfold Condition.compile at compiled
  split at compiled
  · cases compiled
  obtain ⟨tests, ran, rfl⟩ := map_eq_ok compiled
  obtain ⟨asked, among, made⟩ := exists_of_forall₂ (mapM_eq_ok ran).flip inside
  refine ⟨asked, made, ?_⟩
  rw [Clause.tokens]
  exact infix_intercalate_of_mem (List.mem_map_of_mem among) _

mutual

theorem Criterion.compile_asks : ∀ (criterion : Criterion) {clause : Clause},
    criterion.compile table = .ok clause → .comparison name operator value ∈ criterion.places →
    Asks table name (operator, value) clause.tokens
  | .field field condition, clause, compiled, among => by
    rw [Criterion.compile] at compiled
    obtain ⟨_, _, compiled⟩ := bind_eq_ok compiled
    refine Condition.compile_asks compiled ?_
    simpa [Criterion.places] using among
  | .group joiner [], clause, compiled, among => by
    rw [Criterion.compile] at compiled
    cases compiled
  | .group joiner (first :: rest), clause, compiled, among => by
    rw [Criterion.compile] at compiled
    obtain ⟨members, ran, rfl⟩ := map_eq_ok compiled
    have within : .comparison name operator value ∈ memberPlaces joiner (first :: rest) := by
      simpa [Criterion.places] using among
    obtain ⟨part, inside, asks⟩ := compileMembers_asks joiner (first :: rest) ran within
    rw [Clause.tokens]
    exact asks.mono ((infix_intercalate_of_mem inside _).trans (infix_bracketed _))

/-- **The test of every comparison is found in a clause.** -/
theorem compileCriteria_asks : ∀ (criteria : List Criterion) {clauses : List Clause},
    compileCriteria table criteria = .ok clauses →
    .comparison name operator value ∈ criteriaPlaces criteria →
    ∃ clause ∈ clauses, Asks table name (operator, value) clause.tokens
  | [], clauses, compiled, among => by cases among
  | criterion :: rest, clauses, compiled, among => by
    rw [compileCriteria] at compiled
    obtain ⟨clause, first, compiled⟩ := bind_eq_ok compiled
    obtain ⟨others, later, compiled⟩ := bind_eq_ok compiled
    cases compiled
    rcases List.mem_append.1 among with here | behind
    · exact ⟨clause, List.mem_cons_self, criterion.compile_asks first here⟩
    · obtain ⟨other, inside, asks⟩ := compileCriteria_asks rest later behind
      exact ⟨other, List.mem_cons_of_mem _ inside, asks⟩

theorem compileMembers_asks (joiner : Joiner) : ∀ (members : List (List Criterion))
    {compiledMembers : List (List Clause)},
    compileMembers table joiner members = .ok compiledMembers →
    .comparison name operator value ∈ memberPlaces joiner members →
    ∃ part ∈ Clause.memberTokens compiledMembers, Asks table name (operator, value) part
  | [], compiledMembers, compiled, among => by cases among
  | member :: rest, compiledMembers, compiled, among => by
    rw [compileMembers] at compiled
    obtain ⟨clauses, first, compiled⟩ := bind_eq_ok compiled
    by_cases none : clauses.isEmpty
    · rw [if_pos none] at compiled
      cases compiled
    rw [if_neg none] at compiled
    obtain ⟨others, later, compiled⟩ := bind_eq_ok compiled
    cases compiled
    have within : .comparison name operator value ∈ criteriaPlaces member ++ memberPlaces joiner rest := by
      simpa [memberPlaces] using among
    rw [Clause.memberTokens]
    rcases List.mem_append.1 within with here | behind
    · obtain ⟨clause, inside, asks⟩ := compileCriteria_asks member first here
      exact ⟨_, List.mem_cons_self,
        asks.mono ((Clause.infix_conjunction inside).trans (Clause.infix_member clauses))⟩
    · obtain ⟨part, inside, asks⟩ := compileMembers_asks joiner rest later behind
      exact ⟨part, List.mem_cons_of_mem _ inside, asks⟩

end

end

namespace Filter

/-- **The nulls of a filter that compiles are asked for by name**, also where its clauses are joined with
those of other filters. -/
theorem namesNulls_of_compile {table : Table} {filter : Filter} {clauses all : List Clause}
    (compiled : filter.compile table = .ok clauses) (among : ∀ clause ∈ clauses, clause ∈ all) :
    filter.NamesNulls table.name ([Token.symbol "AND"].intercalate (Clause.tokensEach all)) := by
  intro name operator inside
  obtain ⟨clause, own, asks⟩ := compileCriteria_asks filter compiled inside
  obtain ⟨asked, made, found⟩ := asks.mono (Clause.infix_conjunction (among clause own))
  cases operator with
  | equal =>
    cases made
    exact .inl ⟨rfl, found⟩
  | not =>
    cases made
    exact .inr ⟨rfl, found⟩
  | lt | lte | gt | gte => cases made

mutual

theorem null_not_mem_criterion : ∀ criterion : Criterion, .null ∉ criterion.values
  | .field name condition => by
    rw [Criterion.values]
    exact fun inside => Bool.noConfusion (List.mem_filter.1 inside).2
  | .group joiner members => by
    rw [Criterion.values]
    exact null_not_mem_members members

theorem null_not_mem_criteria : ∀ criteria : List Criterion, .null ∉ criteriaValues criteria
  | [] => List.not_mem_nil
  | criterion :: rest => fun inside =>
    (List.mem_append.1 inside).elim (null_not_mem_criterion criterion) (null_not_mem_criteria rest)

theorem null_not_mem_members : ∀ members : List (List Criterion), .null ∉ memberValues members
  | [] => List.not_mem_nil
  | member :: rest => fun inside =>
    (List.mem_append.1 inside).elim (null_not_mem_criteria member) (null_not_mem_members rest)

end

/-- **A filter binds no null.** -/
theorem null_not_mem_params {table : Table} {filter : Filter} {clauses : List Clause}
    (compiled : filter.compile table = .ok clauses) :
    .null ∉ (Clause.conjunction clauses).params := by
  rw [params_conjunction compiled]
  exact null_not_mem_criteria filter

end Filter

end SqlCraft
