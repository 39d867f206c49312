/-
**Filters with other values.**

Apart from being null or not, values do not matter to how a filter is compiled: with other values it has
the same clauses with the other values in them, or is refused for the same reason. Its SQL has the same
text.

* `Filter.mapValues`, `mapClauses`, `Fragment.mapValues` — other values in the places of the old ones;
* `KeepsNull` — nulls stay null, and nothing else becomes null;
* `Filter.compile_mapValues` — the clauses of a filter with other values;
* `Clause.whereFragment_mapClauses` — the SQL of these clauses.
-/

import SqlCraft.Filter.Clause
import SqlCraft.Proofs.Compiled
import SqlCraft.Proofs.Sql.Lexeme

namespace SqlCraft

open Sql (Operator Joiner ColumnName Fragment Piece)

/-! ### Other values -/

section

variable (change : Value → Value)

/-- A condition with other values. -/
def Condition.mapValues : Condition → Condition
  | .equals value => .equals (change value)
  | .all comparisons => .all (comparisons.map fun comparison => (comparison.1, change comparison.2))

mutual

/-- A criterion with other values. -/
def Criterion.mapValues : Criterion → Criterion
  | .field name condition => .field name (condition.mapValues change)
  | .group joiner members => .group joiner (mapMembers members)

/-- Criteria with other values. -/
def mapCriteria : List Criterion → List Criterion
  | [] => []
  | criterion :: rest => criterion.mapValues :: mapCriteria rest

/-- The members of a group with other values. -/
def mapMembers : List (List Criterion) → List (List Criterion)
  | [] => []
  | member :: rest => mapCriteria member :: mapMembers rest

end

/-- A filter with other values. -/
def Filter.mapValues (filter : Filter) : Filter := mapCriteria change filter

/-- A test with another value. -/
def Test.mapValues : Test → Test
  | .compare operator value => .compare operator (change value)
  | asked => asked

mutual

/-- A clause with other values. -/
def Clause.mapValues : Clause → Clause
  | .column name tests => .column name (tests.map (Test.mapValues change))
  | .group joiner members => .group joiner (mapClauseMembers members)

/-- Clauses with other values. -/
def mapClauses : List Clause → List Clause
  | [] => []
  | clause :: rest => clause.mapValues :: mapClauses rest

/-- The members of a compiled group with other values. -/
def mapClauseMembers : List (List Clause) → List (List Clause)
  | [] => []
  | member :: rest => mapClauses member :: mapClauseMembers rest

end

/-- A piece with another value. -/
def Sql.Piece.mapValue : Piece → Piece
  | .slot value => .slot (change value)
  | piece => piece

/-- A fragment with other values. -/
def Sql.Fragment.mapValues (fragment : Fragment) : Fragment := fragment.map (Piece.mapValue change)

end

/-- Null stays null, and nothing else becomes null. -/
def KeepsNull (change : Value → Value) : Prop := ∀ value, change value = .null ↔ value = .null

section

variable {change : Value → Value}

/-! ### Compiling with other values -/

theorem Test.ofComparison_mapValues (keeps : KeepsNull change) (column : ColumnName)
    (comparison : Operator × Value) :
    ofComparison column (comparison.1, change comparison.2) =
      (ofComparison column comparison).map (Test.mapValues change) := by
  obtain ⟨operator, value⟩ := comparison
  by_cases null : value = .null
  · subst null
    rw [(keeps .null).2 rfl]
    cases operator <;> rfl
  · have some (other : Value) (present : other ≠ .null) :
        ofComparison column (operator, other) = .ok (.compare operator other) := by
      cases other with
      | null => exact absurd rfl present
      | _ => cases operator <;> rfl
    rw [some value null, some (change value) fun gone => null ((keeps value).1 gone)]
    rfl

theorem Condition.comparisons_mapValues (change : Value → Value) (condition : Condition) :
    (condition.mapValues change).comparisons =
      condition.comparisons.map fun comparison => (comparison.1, change comparison.2) := by
  cases condition <;> rfl

theorem Condition.compile_mapValues (keeps : KeepsNull change) (column : ColumnName)
    (condition : Condition) :
    (condition.mapValues change).compile column =
      (condition.compile column).map (Clause.mapValues change) := by
  unfold Condition.compile
  rw [comparisons_mapValues, List.isEmpty_map,
    mapM_commutes _ (Test.ofComparison_mapValues keeps column)]
  split
  · rfl
  · cases condition.comparisons.mapM (Test.ofComparison column) <;> rfl

mutual

theorem Criterion.compile_mapValues (keeps : KeepsNull change) (table : Table) :
    ∀ criterion : Criterion, (criterion.mapValues change).compile table =
      (criterion.compile table).map (Clause.mapValues change)
  | .field name condition => by
    rw [Criterion.mapValues, Criterion.compile, Criterion.compile, condition.compile_mapValues keeps]
    exact bind_commutes fun _ => rfl
  | .group joiner [] => rfl
  | .group joiner (first :: rest) => by
    have members := compileMembers_mapMembers keeps table joiner (first :: rest)
    rw [mapMembers] at members
    rw [Criterion.mapValues, mapMembers, Criterion.compile, Criterion.compile, members]
    cases compileMembers table joiner (first :: rest) <;> rfl

theorem compileCriteria_mapCriteria (keeps : KeepsNull change) (table : Table) :
    ∀ criteria : List Criterion, compileCriteria table (mapCriteria change criteria) =
      (compileCriteria table criteria).map (mapClauses change)
  | [] => rfl
  | criterion :: rest => by
    rw [mapCriteria, compileCriteria, compileCriteria, criterion.compile_mapValues keeps table,
      compileCriteria_mapCriteria keeps table rest]
    exact map_bind_commutes fun clause => map_bind_commutes fun clauses => rfl

theorem compileMembers_mapMembers (keeps : KeepsNull change) (table : Table) (joiner : Joiner) :
    ∀ members : List (List Criterion), compileMembers table joiner (mapMembers change members) =
      (compileMembers table joiner members).map (mapClauseMembers change)
  | [] => rfl
  | member :: rest => by
    rw [mapMembers, compileMembers, compileMembers, compileCriteria_mapCriteria keeps table member,
      compileMembers_mapMembers keeps table joiner rest]
    refine map_bind_commutes fun clauses => ?_
    cases clauses with
    | nil => rfl
    | cons clause others => exact map_bind_commutes fun members => rfl

end

/-- **With other values, a filter has the same clauses**, up to these, or the same offence. -/
theorem Filter.compile_mapValues (keeps : KeepsNull change) (table : Table) (filter : Filter) :
    (filter.mapValues change).compile table = (filter.compile table).map (mapClauses change) :=
  compileCriteria_mapCriteria keeps table filter

end

/-! ### SQL with other values -/

namespace Sql.Fragment

@[simp] theorem text_mapValues (change : Value → Value) (fragment : Fragment) :
    (fragment.mapValues change).text = fragment.text := by
  have same : ∀ piece : Piece, (piece.mapValue change).text = piece.text := by
    rintro (word | name | value) <;> rfl
  rw [text, text, mapValues, List.map_map]
  exact congrArg String.join (List.map_congr_left fun piece _ => same piece)

@[simp] theorem params_mapValues (change : Value → Value) (fragment : Fragment) :
    (fragment.mapValues change).params = fragment.params.map change := by
  induction fragment with
  | nil => rfl
  | cons piece rest ih =>
    cases piece with
    | word | identifier => exact ih
    | slot value => exact congrArg (change value :: ·) ih

theorem mapValues_append (change : Value → Value) (left right : Fragment) :
    mapValues change (left ++ right) = left.mapValues change ++ right.mapValues change :=
  List.map_append

theorem mapValues_join (change : Value → Value) (separator : String) (fragments : List Fragment) :
    (join separator fragments).mapValues change =
      join separator (fragments.map (mapValues change)) := by
  induction fragments with
  | nil => rfl
  | cons fragment rest ih =>
    cases rest with
    | nil => simp [join]
    | cons second rest =>
      rw [List.map_cons, List.map_cons, join, join, List.intercalate_cons_cons,
        List.intercalate_cons_cons, mapValues_append, mapValues_append]
      exact congrArg _ ih

theorem mapValues_parenthesized (change : Value → Value) (fragment : Fragment) :
    (parenthesized fragment).mapValues change = parenthesized (fragment.mapValues change) :=
  congrArg (Piece.word "(" :: ·) (mapValues_append change fragment [.word ")"])

end Sql.Fragment

theorem Test.fragment_mapValues (change : Value → Value) (column : ColumnName) (asked : Test) :
    (asked.mapValues change).fragment column = (asked.fragment column).mapValues change := by
  cases asked <;> rfl

theorem mapClauses_append (change : Value → Value) (left right : List Clause) :
    mapClauses change (left ++ right) = mapClauses change left ++ mapClauses change right := by
  induction left with
  | nil => rfl
  | cons clause left ih => rw [List.cons_append, mapClauses, mapClauses, ih, List.cons_append]

theorem Clause.isCompound_mapClauses (change : Value → Value) (clauses : List Clause) :
    isCompound (mapClauses change clauses) = isCompound clauses := by
  cases clauses with
  | nil => rfl
  | cons clause rest =>
    cases rest with
    | nil => cases clause <;> simp [mapClauses, mapValues, isCompound]
    | cons second rest => cases clause <;> simp [mapClauses, mapValues, isCompound]

mutual

theorem Clause.fragment_mapValues (change : Value → Value) : ∀ clause : Clause,
    (clause.mapValues change).fragment = clause.fragment.mapValues change
  | .column name tests => by
    rw [Clause.mapValues, Clause.fragment, Clause.fragment, Fragment.mapValues_join, List.map_map,
      List.map_map]
    congr 2
    funext asked
    exact asked.fragment_mapValues change name
  | .group joiner members => by
    rw [Clause.mapValues, Clause.fragment, Clause.fragment, Fragment.mapValues_parenthesized,
      Fragment.mapValues_join, memberFragments_mapClauseMembers change members]

theorem fragments_mapClauses (change : Value → Value) : ∀ clauses : List Clause,
    Clause.fragments (mapClauses change clauses) =
      (Clause.fragments clauses).map (Fragment.mapValues change)
  | [] => rfl
  | clause :: rest => by
    rw [mapClauses, Clause.fragments, Clause.fragments, List.map_cons,
      clause.fragment_mapValues change, fragments_mapClauses change rest]

theorem memberFragments_mapClauseMembers (change : Value → Value) : ∀ members : List (List Clause),
    Clause.memberFragments (mapClauseMembers change members) =
      (Clause.memberFragments members).map (Fragment.mapValues change)
  | [] => rfl
  | member :: rest => by
    rw [mapClauseMembers, Clause.memberFragments, Clause.memberFragments, List.map_cons,
      memberFragments_mapClauseMembers change rest, fragments_mapClauses change member,
      Clause.isCompound_mapClauses, ← Fragment.mapValues_join, ← Fragment.mapValues_parenthesized,
      ← apply_ite]

end

/-- **The SQL of clauses with other values** has these in the places of the old ones. -/
theorem Clause.whereFragment_mapClauses (change : Value → Value) (clauses : List Clause) :
    whereFragment (mapClauses change clauses) = (whereFragment clauses).mapValues change := by
  cases clauses with
  | nil => rfl
  | cons clause rest =>
    have joined : conjunction (mapClauses change (clause :: rest)) =
        (conjunction (clause :: rest)).mapValues change := by
      rw [conjunction, fragments_mapClauses, ← Fragment.mapValues_join, conjunction]
    exact congrArg (Piece.word " WHERE " :: ·) joined

end SqlCraft
