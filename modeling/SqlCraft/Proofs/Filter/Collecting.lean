/-
**Collected comparisons.**

Comparisons of one field that follow each other can stand in one criterion or in one each, and a value can
be asked for as it is or by `equal`: the SQL is the same, and so is the reason if the filter is refused.
The clauses are not the same, but those of the filter with single comparisons are the others taken apart,
test by test. Tests are joined by `AND` as clauses are, and a member of a group gets its brackets for
having more than one test, wherever these stand.

* `Filter.split` — a filter with a criterion of its own for each comparison, at every depth;
* `Filter.compile_split` — its clauses are those of the filter, taken apart;
* `Clause.conjunction_split` — clauses that are taken apart have the same SQL;
* `Filter.Context` — a place at any depth of a filter;
* `Filter.Collects` — the steps that collect comparisons;
* `Filter.sql_split` — none of this shows in the SQL.
-/

import SqlCraft.Filter.Clause
import SqlCraft.Proofs.Compiled
import SqlCraft.Sql.Statement

namespace SqlCraft

open Sql (Operator Joiner ColumnName Fragment BoundText)

/-! ### One comparison at a time -/

/-- A condition as criteria of one comparison each. A field that is compared with nothing stays. -/
def Condition.split (name : String) (condition : Condition) : List Criterion :=
  if condition.comparisons.isEmpty then [.field name condition]
  else condition.comparisons.map fun comparison => .field name (.all [comparison])

mutual

/-- A criterion as criteria of one comparison each. -/
def Criterion.split : Criterion → List Criterion
  | .field name condition => condition.split name
  | .group joiner members => [.group joiner (splitMembers members)]

/-- Criteria as criteria of one comparison each. -/
def splitCriteria : List Criterion → List Criterion
  | [] => []
  | criterion :: rest => criterion.split ++ splitCriteria rest

/-- The members of a group with criteria of one comparison each. -/
def splitMembers : List (List Criterion) → List (List Criterion)
  | [] => []
  | member :: rest => splitCriteria member :: splitMembers rest

end

/-- A filter with criteria of one comparison each, at every depth. -/
def Filter.split (filter : Filter) : Filter := splitCriteria filter

mutual

/-- A clause as clauses of one test each. -/
def Clause.split : Clause → List Clause
  | .column name tests =>
    if tests.isEmpty then [.column name tests] else tests.map fun asked => .column name [asked]
  | .group joiner members => [.group joiner (splitClauseMembers members)]

/-- Clauses as clauses of one test each. -/
def splitClauses : List Clause → List Clause
  | [] => []
  | clause :: rest => clause.split ++ splitClauses rest

/-- The members of a compiled group with clauses of one test each. -/
def splitClauseMembers : List (List Clause) → List (List Clause)
  | [] => []
  | member :: rest => splitClauses member :: splitClauseMembers rest

end

theorem Condition.split_of_ne_nil {condition : Condition} (some : condition.comparisons ≠ [])
    (name : String) : condition.split name =
      condition.comparisons.map fun comparison => .field name (.all [comparison]) :=
  if_neg (by simpa using some)

theorem Condition.split_op {α : Type} [ToValue α] {condition : Condition}
    (some : condition.comparisons ≠ []) (name : String) (operator : Operator) (value : α) :
    (condition.op operator value).split name =
      condition.split name ++ [.field name (.all [(operator, toValue value)])] := by
  have more : (condition.op operator value).comparisons ≠ [] := by
    simp [Condition.op, Condition.comparisons]
  rw [split_of_ne_nil more, split_of_ne_nil some, Condition.op, comparisons, List.map_append]
  rfl

theorem Clause.split_column {tests : List Test} (some : tests ≠ []) (name : ColumnName) :
    (Clause.column name tests).split = tests.map fun asked => .column name [asked] := by
  rw [Clause.split, if_neg (by simpa using some)]

theorem splitCriteria_append (left right : List Criterion) :
    splitCriteria (left ++ right) = splitCriteria left ++ splitCriteria right := by
  induction left with
  | nil => rfl
  | cons criterion left ih =>
    rw [List.cons_append, splitCriteria, splitCriteria, ih, List.append_assoc]

theorem splitMembers_append (left right : List (List Criterion)) :
    splitMembers (left ++ right) = splitMembers left ++ splitMembers right := by
  induction left with
  | nil => rfl
  | cons member left ih => rw [List.cons_append, splitMembers, splitMembers, ih, List.cons_append]

theorem Clause.split_ne_nil (clause : Clause) : clause.split ≠ [] := by
  cases clause with
  | column name tests =>
    cases tests with
    | nil => simp [Clause.split]
    | cons asked rest => simp [Clause.split]
  | group joiner members => simp [Clause.split]

theorem splitClauses_eq_nil_iff {clauses : List Clause} : splitClauses clauses = [] ↔ clauses = [] := by
  cases clauses with
  | nil => exact ⟨fun _ => rfl, fun _ => rfl⟩
  | cons clause rest => simp [splitClauses, clause.split_ne_nil]

/-! ### The clauses of single comparisons -/

theorem compileCriteria_append (table : Table) (left right : List Criterion) :
    compileCriteria table (left ++ right) = do
      let first ← compileCriteria table left
      return first ++ (← compileCriteria table right) := by
  induction left with
  | nil =>
    rw [List.nil_append]
    cases compileCriteria table right <;> rfl
  | cons criterion left ih =>
    rw [List.cons_append, compileCriteria, compileCriteria, ih]
    cases criterion.compile table with
    | error cause => rfl
    | ok clause =>
      cases compileCriteria table left with
      | error cause => rfl
      | ok first => cases compileCriteria table right <;> rfl

/-- Single comparisons of a declared field have a clause for each test. -/
theorem compileCriteria_comparisons {table : Table} {name : String}
    (declared : table.require name = .ok ()) (comparisons : List (Operator × Value)) :
    compileCriteria table (comparisons.map fun comparison => .field name (.all [comparison])) =
      (comparisons.mapM (Test.ofComparison ⟨table.name, name⟩)).map
        (List.map fun asked => .column ⟨table.name, name⟩ [asked]) := by
  induction comparisons with
  | nil => rfl
  | cons comparison rest ih =>
    have single : Criterion.compile table (.field name (.all [comparison])) =
        (Test.ofComparison ⟨table.name, name⟩ comparison).map
          fun asked => .column ⟨table.name, name⟩ [asked] := by
      rw [Criterion.compile, declared]
      show ([comparison].mapM (Test.ofComparison ⟨table.name, name⟩)).map _ = _
      rw [List.mapM_cons]
      cases Test.ofComparison ⟨table.name, name⟩ comparison <;> rfl
    rw [List.map_cons, compileCriteria, single, ih, List.mapM_cons]
    exact map_bind_commutes fun asked => map_bind_commutes fun tests => rfl

theorem Condition.compile_split (table : Table) (name : String) (condition : Condition) :
    compileCriteria table (condition.split name) =
      ((Criterion.field name condition).compile table).map Clause.split := by
  by_cases none : condition.comparisons = []
  · -- A field that is compared with nothing is refused in both, if not for being unknown.
    have refused : condition.compile ⟨table.name, name⟩ =
        .error (.descriptor (.noOperator table.name name)) := by
      rw [Condition.compile, none]
      rfl
    rw [Condition.split, none, List.isEmpty_nil, if_pos rfl, compileCriteria, Criterion.compile,
      refused]
    cases table.require name <;> rfl
  · rw [split_of_ne_nil none, Criterion.compile, Condition.compile,
      if_neg (by simpa using none)]
    cases declared : table.require name with
    | error cause =>
      obtain ⟨comparison, rest, same⟩ := List.exists_cons_of_ne_nil none
      rw [same, List.map_cons, compileCriteria, Criterion.compile, declared]
      rfl
    | ok _ =>
      rw [compileCriteria_comparisons declared]
      cases ran : condition.comparisons.mapM (Test.ofComparison ⟨table.name, name⟩) with
      | error cause => rfl
      | ok tests =>
        have some : tests ≠ [] := fun empty => by
          have lengths := (mapM_eq_ok ran).length_eq
          rw [empty, List.length_nil, List.length_eq_zero_iff] at lengths
          exact none lengths
        exact congrArg Except.ok (Clause.split_column some _).symm

mutual

theorem Criterion.compile_split (table : Table) : ∀ criterion : Criterion,
    compileCriteria table criterion.split = (criterion.compile table).map Clause.split
  | .field name condition => condition.compile_split table name
  | .group joiner [] => rfl
  | .group joiner (first :: rest) => by
    have members := compileMembers_split table joiner (first :: rest)
    rw [splitMembers] at members
    rw [Criterion.split, splitMembers, compileCriteria, Criterion.compile, Criterion.compile, members]
    cases compileMembers table joiner (first :: rest) <;> rfl

theorem compileCriteria_split (table : Table) : ∀ criteria : List Criterion,
    compileCriteria table (splitCriteria criteria) =
      (compileCriteria table criteria).map splitClauses
  | [] => rfl
  | criterion :: rest => by
    rw [splitCriteria, compileCriteria_append, criterion.compile_split table,
      compileCriteria_split table rest, compileCriteria]
    exact map_bind_commutes fun clause => map_bind_commutes fun clauses => rfl

theorem compileMembers_split (table : Table) (joiner : Joiner) : ∀ members : List (List Criterion),
    compileMembers table joiner (splitMembers members) =
      (compileMembers table joiner members).map splitClauseMembers
  | [] => rfl
  | member :: rest => by
    rw [splitMembers, compileMembers, compileMembers, compileCriteria_split table member,
      compileMembers_split table joiner rest]
    refine map_bind_commutes fun clauses => ?_
    have empty : (splitClauses clauses).isEmpty = clauses.isEmpty :=
      Bool.eq_iff_iff.2 (by simpa using splitClauses_eq_nil_iff)
    rw [empty]
    cases clauses with
    | nil => rfl
    | cons clause others => exact map_bind_commutes fun members => rfl

end

/-- **With single comparisons a filter has its clauses taken apart**, or the same offence. -/
theorem Filter.compile_split (table : Table) (filter : Filter) :
    filter.split.compile table = (filter.compile table).map splitClauses :=
  compileCriteria_split table filter

/-! ### The SQL of clauses that are taken apart -/

theorem Sql.Fragment.join_append (separator : String) {left right : List Fragment}
    (first : left ≠ []) (second : right ≠ []) :
    join separator (left ++ right) = join separator left ++ .word separator :: join separator right := by
  induction left with
  | nil => exact absurd rfl first
  | cons fragment left ih =>
    obtain ⟨next, others, rfl⟩ := List.exists_cons_of_ne_nil second
    cases left with
    | nil => simp [join]
    | cons more left =>
      rw [join, join, List.cons_append, List.cons_append, List.intercalate_cons_cons,
        List.intercalate_cons_cons, ← List.cons_append, ← join, ih (List.cons_ne_nil _ _), join]
      simp only [List.append_assoc]

namespace Clause

theorem isCompound_of_two (first second : Clause) (rest : List Clause) :
    isCompound (first :: second :: rest) = true := by
  simp [isCompound]

/-- **What is taken apart is compound if it was**: a column with more than one test becomes more than one
clause. -/
theorem isCompound_split (clauses : List Clause) :
    isCompound (splitClauses clauses) = isCompound clauses := by
  match clauses with
  | [] => rfl
  | [.column name []] | [.column name [asked]] | [.group joiner members] => rfl
  | [.column name (asked :: more :: rest)] => simp [splitClauses, Clause.split, isCompound]
  | first :: second :: rest =>
    obtain ⟨one, others, same⟩ := List.exists_cons_of_ne_nil first.split_ne_nil
    obtain ⟨two, further, alike⟩ := List.exists_cons_of_ne_nil second.split_ne_nil
    rw [splitClauses, splitClauses, same, alike, isCompound_of_two]
    cases others <;> exact isCompound_of_two _ _ _

mutual

/-- The clauses that a clause is taken apart into are joined to it. -/
theorem fragment_split : ∀ clause : Clause,
    Fragment.join " AND " (fragments clause.split) = clause.fragment
  | .column name [] => rfl
  | .column name (asked :: rest) => by
    have each : ∀ single : Test, (Clause.column name [single]).fragment = single.fragment name :=
      fun single => by simp [fragment, Fragment.join]
    rw [Clause.split_column (List.cons_ne_nil _ _), fragments_eq_map, List.map_map, fragment]
    exact congrArg (Fragment.join " AND ") (List.map_congr_left fun single _ => each single)
  | .group joiner members => by
    rw [Clause.split, fragments, fragments, fragment, fragment, memberFragments_split members]
    simp [Fragment.join]

/-- Taken apart, clauses have the same SQL. -/
theorem join_fragments_split : ∀ clauses : List Clause,
    Fragment.join " AND " (fragments (splitClauses clauses)) =
      Fragment.join " AND " (fragments clauses)
  | [] => rfl
  | [clause] => by
    rw [splitClauses, splitClauses, List.append_nil, fragment_split clause]
    simp [fragments, Fragment.join]
  | clause :: second :: rest => by
    have some {clauses : List Clause} (some : clauses ≠ []) : fragments clauses ≠ [] := by
      rw [fragments_eq_map]
      simpa using some
    have later : splitClauses (second :: rest) ≠ [] := mt splitClauses_eq_nil_iff.1 (List.cons_ne_nil _ _)
    have whole : fragments (clause :: second :: rest) = [clause.fragment] ++ fragments (second :: rest) :=
      rfl
    rw [splitClauses, fragments_eq_map, List.map_append, ← fragments_eq_map, ← fragments_eq_map,
      Fragment.join_append _ (some clause.split_ne_nil) (some later), fragment_split clause,
      join_fragments_split (second :: rest), whole,
      Fragment.join_append _ (List.cons_ne_nil _ _) (some (List.cons_ne_nil _ _))]
    simp [Fragment.join]

theorem memberFragments_split : ∀ members : List (List Clause),
    memberFragments (splitClauseMembers members) = memberFragments members
  | [] => rfl
  | member :: rest => by
    rw [splitClauseMembers, memberFragments, memberFragments, memberFragments_split rest,
      join_fragments_split member, isCompound_split]

end

/-- **Clauses that are taken apart have the same SQL.** -/
theorem conjunction_split (clauses : List Clause) :
    conjunction (splitClauses clauses) = conjunction clauses :=
  join_fragments_split clauses

end Clause

namespace Filter

/-! ### Filters that split alike -/

/-- The condition that a filter is in SQL, with its parameters. -/
def sql (table : Table) (filter : Filter) : Compiled BoundText :=
  (filter.compile table).map fun clauses => (Clause.conjunction clauses).bound

theorem sql_split_eq (table : Table) (filter : Filter) : filter.split.sql table = filter.sql table := by
  rw [sql, sql, compile_split]
  cases filter.compile table with
  | error cause => rfl
  | ok clauses => exact congrArg (fun joined => Except.ok joined.bound) (Clause.conjunction_split clauses)

/-- A place in a filter, at any depth, between other criteria. -/
inductive Context where
  /-- A place among the criteria of the filter. -/
  | here (before after : Filter)
  /-- A place in a member of a group. -/
  | within (before : Filter) (joiner : Joiner) (earlier : List Filter) (context : Context)
    (later : List Filter) (after : Filter)

/-- The filter with some criteria in the place. -/
def Context.fill (filter : Filter) : Context → Filter
  | .here before after => before ++ filter ++ after
  | .within before joiner earlier context later after =>
    before ++ [.group joiner (earlier ++ [context.fill filter] ++ later)] ++ after

/-- **Criteria that split alike do so in every place.** -/
theorem split_fill {first second : Filter} (same : first.split = second.split) (context : Context) :
    (context.fill first).split = (context.fill second).split := by
  unfold split at same ⊢
  induction context with
  | here before after =>
    rw [Context.fill, Context.fill, splitCriteria_append, splitCriteria_append, splitCriteria_append,
      splitCriteria_append, same]
  | within before joiner earlier context later after ih =>
    have members : splitMembers (earlier ++ [context.fill first] ++ later) =
        splitMembers (earlier ++ [context.fill second] ++ later) := by
      simp only [splitMembers_append, splitMembers, ih]
    simp only [Context.fill, splitCriteria_append, splitCriteria, Criterion.split, members]

/-- Criteria that split alike have the same SQL in every place. -/
theorem sql_fill {first second : Filter} (same : first.split = second.split) (table : Table)
    (context : Context) : (context.fill first).sql table = (context.fill second).sql table := by
  rw [← sql_split_eq, split_fill same, sql_split_eq]

/-! ### Collecting -/

/-- Ways to collect: the comparisons of the first filter are fewer criteria of the second, or are asked
for as values there. -/
inductive Collects : Filter → Filter → Prop
  /-- A value as it is. -/
  | value (name : String) (value : Value) :
    Collects (empty.field name (.all [(.equal, value)])) (empty.field name (.equals value))
  /-- One more comparison in a condition that has some. -/
  | condition {α : Type} [ToValue α] (name : String) (condition : Condition) (operator : Operator)
    (value : α) (some : condition.comparisons ≠ []) :
    Collects ((empty.field name condition).field name (.all [(operator, toValue value)]))
      (empty.field name (condition.op operator value))
  /-- One more comparison in a filter that does not end with a field compared with nothing. -/
  | op {α : Type} [ToValue α] (filter : Filter) (name : String) (operator : Operator) (value : α)
    (some : filter.getLast? ≠ some (.field name (.all []))) :
    Collects (filter.field name (.all [(operator, toValue value)])) (filter.op name operator value)

theorem split_field (filter : Filter) (name : String) (condition : Condition) :
    (filter.field name condition).split = filter.split ++ condition.split name := by
  rw [field, split, splitCriteria_append, splitCriteria, splitCriteria, List.append_nil]
  rfl

/-- **Collecting leaves what a filter splits into.** -/
theorem Collects.split_eq {first second : Filter} (collects : first.Collects second) :
    first.split = second.split := by
  cases collects with
  | value name value => rfl
  | condition name condition operator value some =>
    rw [split_field, split_field, split_field, Condition.split_op some, List.append_assoc]
    rfl
  | op filter name operator value some =>
    unfold Filter.op
    split
    · rename_i last comparisons ends
      by_cases same : last = name
      · subst same
        have some : (Condition.all comparisons).comparisons ≠ [] := fun none => by
          rw [Condition.comparisons] at none
          exact some (none ▸ ends)
        have whole : filter = field filter.dropLast last (.all comparisons) :=
          (List.dropLast_append_getLast? _ ends).symm
        have parts := congrArg split whole
        rw [split_field] at parts
        rw [if_pos rfl, ← field, split_field, split_field, Condition.split_op some, parts,
          List.append_assoc]
        rfl
      · rw [if_neg same]
        rfl
    · rfl

/-- **Collecting does not show in the SQL.** A filter has the SQL, with its parameters, of the filter with a
criterion of its own for each comparison at every depth, or both are refused for the same reason. So
comparisons can be collected, and values asked for as they are, at any place of any filter. -/
theorem sql_split (table : Table) (filter : Filter) :
    filter.split.sql table = filter.sql table ∧
    ∀ first second : Filter, first.Collects second → ∀ context : Context,
      (context.fill first).sql table = (context.fill second).sql table :=
  ⟨sql_split_eq table filter, fun _ _ collects context => sql_fill collects.split_eq table context⟩

/-- Two comparisons in a member of a group have brackets around them, collected or not, and with a field
that is not declared behind them both filters are refused for it. -/
theorem sql_split_grouped :
    let table : Table := ⟨"songs", [{ name := "title", type := .varchar },
      { name := "plays", type := .int }]⟩
    let more := empty.op "plays" .gt (1 : Int64)
    let separate := more.field "plays" (.all [(.lt, .int 5)])
    let collected := more.op "plays" .lt (5 : Int64)
    let context : Context :=
      .within (empty.isNotNull "title") .or [] (.here [] []) [empty.eq "title" "x"] []
    let refused : Context := .here [] (empty.isNull "genre")
    let sql := "\x60songs\x60.\x60title\x60 IS NOT NULL AND ((\x60songs\x60.\x60plays\x60 > ? AND " ++
      "\x60songs\x60.\x60plays\x60 < ?) OR \x60songs\x60.\x60title\x60 = ?)"
    separate.Collects collected ∧
    (context.fill collected).sql table = .ok ⟨sql, [.int 1, .int 5, .text "x"]⟩ ∧
    (context.fill separate).sql table = (context.fill collected).sql table ∧
    (context.fill collected).split.sql table = (context.fill collected).sql table ∧
    (refused.fill separate).sql table = (refused.fill collected).sql table ∧
    (refused.fill collected).sql table = .error (.unknownField "songs" "genre") := by
  intro table more separate collected context refused sql
  have collects : separate.Collects collected :=
    .op more "plays" .lt (5 : Int64) fun same => by cases same
  obtain ⟨split, alike⟩ := sql_split table (context.fill collected)
  exact ⟨collects, by decide +kernel, alike _ _ collects context, split, alike _ _ collects refused, rfl⟩

end Filter

end SqlCraft
