/-
**The tables and the columns in the text of a select.**

The text of a select introduces its table and those of its joins, and refers to the columns of what it
shows, of its joins, of its clauses and of its order, one behind the other.

* `Projection.columns`, `Join.columns`, `Clause.columns` — the columns of the parts;
* `Select.tables`, `Select.columns` — the tables and the columns of a select;
* `Select.tokens?_found` — these are what is found in its text.
-/

import SqlCraft.Proofs.Filter.Tokens
import SqlCraft.Proofs.Sql.Reference

namespace SqlCraft

open Sql
open List (Forall₂)

/-! ### Columns -/

/-- The columns of a projection. -/
def Projection.columns : Projection → List ColumnName
  | .column name => [name]
  | .aggregate _ operand _ => operand.toList

/-- The columns of a join. -/
def Join.columns (join : Join) : List ColumnName := [join.left, join.right]

namespace Clause

mutual

/-- The columns of a clause, one for each test. -/
def columns : Clause → List ColumnName
  | .column name tests => tests.flatMap fun _ => [name]
  | .group _ members => (memberColumns members).flatten

/-- The columns of each of some clauses. -/
def columnsEach : List Clause → List (List ColumnName)
  | [] => []
  | clause :: rest => clause.columns :: columnsEach rest

/-- The columns of each member of a group. -/
def memberColumns : List (List Clause) → List (List ColumnName)
  | [] => []
  | member :: rest => (columnsEach member).flatten :: memberColumns rest

end

theorem columnsEach_eq (clauses : List Clause) : columnsEach clauses = clauses.map columns := by
  induction clauses with
  | nil => rfl
  | cons clause rest ih => rw [columnsEach, ih, List.map_cons]

end Clause

namespace Select

/-- The tables of a select. -/
def tables (select : Select) : List String := select.table :: select.joins.map Join.table

/-- The columns of a select. -/
def columns (select : Select) : List ColumnName :=
  select.projections.flatMap Projection.columns ++ select.joins.flatMap Join.columns ++
    select.clauses.flatMap Clause.columns ++ select.order.map SortKey.column

end Select

/-! ### What is found in the text -/

theorem Projection.names (projection : Projection) :
    Names projection.tokens [] projection.columns := by
  cases projection with
  | column name => exact .column name .nil
  | aggregate function operand label =>
    have behind : Names [.symbol ")", .symbol "AS", .name label] [] [] :=
      .symbol (by decide) (.symbol (by decide) (.label label .nil))
    have neither : Neither function.name := by cases function <;> decide
    cases operand with
    | none => exact .symbol neither (.symbol (by decide) (.symbol (by decide) behind))
    | some name => exact .symbol neither (.symbol (by decide) (.column name behind))

theorem SortKey.names (key : SortKey) : Names key.tokens [] [key.column] := by
  refine .column key.column (.symbol ?_ .nil)
  cases key.direction <;> decide

theorem Join.names (join : Join) {tokens : List Token} {tables : List String}
    {columns : List ColumnName} (later : Names tokens tables columns) :
    Names (join.tokens ++ tokens) (join.table :: tables) (join.columns ++ columns) :=
  .symbol (by decide) <| .table (.inr rfl) join.table <| .symbol (by decide) <|
    .column join.left <| .symbol (by decide) <| .column join.right later

theorem Test.names (column : ColumnName) (asked : Test) :
    Names (asked.tokens column) [] [column] := by
  cases asked with
  | isNull => exact .column column (.symbol (by decide) (.symbol (by decide) .nil))
  | isNotNull =>
    exact .column column (.symbol (by decide) (.symbol (by decide) (.symbol (by decide) .nil)))
  | compare operator value =>
    refine .column column (.symbol ?_ (.value value .nil))
    cases operator <;> decide

theorem Sql.Names.bracketed {tokens : List Token} {columns : List ColumnName}
    (names : Names tokens [] columns) : Names (bracketed tokens) [] columns := by
  have closed := names.append (.symbol (by decide) .nil : Names [.symbol ")"] [] [])
  rw [List.append_nil, List.append_nil] at closed
  exact .symbol (by decide) closed

namespace Clause

mutual

theorem names : ∀ clause : Clause, Names clause.tokens [] clause.columns
  | .column name tests => by
    rw [tokens, columns]
    refine .intercalate (by decide) ?_
    rw [List.forall₂_map_left_iff, List.forall₂_map_right_iff]
    exact List.forall₂_same.2 fun asked _ => asked.names name
  | .group joiner members => by
    rw [tokens, columns]
    refine .bracketed (.intercalate ?_ (names_members members))
    cases joiner <;> decide

theorem names_each : ∀ clauses : List Clause,
    Forall₂ (Names · []) (tokensEach clauses) (columnsEach clauses)
  | [] => .nil
  | clause :: rest => .cons clause.names (names_each rest)

theorem names_members : ∀ members : List (List Clause),
    Forall₂ (Names · []) (memberTokens members) (memberColumns members)
  | [] => .nil
  | member :: rest => by
    rw [memberTokens, memberColumns]
    refine .cons ?_ (names_members rest)
    have joined := Names.intercalate (by decide : Neither "AND") (names_each member)
    split
    · exact joined.bracketed
    · exact joined

end

end Clause

namespace Select

/-- The tokens of the condition. -/
def asked (select : Select) : List Token :=
  if select.clauses.isEmpty then []
  else .symbol "WHERE" :: [Token.symbol "AND"].intercalate (Clause.tokensEach select.clauses)

theorem names_paged (take skip : Option Nat) : Names (paged take skip) [] [] := by
  have number (count : Nat) : Neither (toString count) := by
    have letter : ∀ word ∈ ["FROM", "JOIN", "."], word.toList.all Char.isDigit = false := by decide
    exact fun inside => number_ne (letter _ inside) count rfl
  have offset (count : Nat) : Names [.symbol "OFFSET", .symbol (toString count)] [] [] :=
    .symbol (by decide) (.symbol (number count) .nil)
  cases take with
  | some take =>
    cases skip with
    | some skip => exact .symbol (by decide) (.symbol (number take) (offset skip))
    | none => exact .symbol (by decide) (.symbol (number take) .nil)
  | none =>
    cases skip with
    | some skip => exact .symbol (by decide) (.symbol (number maxLimit) (offset skip))
    | none => exact .nil

theorem names_page (select : Select) : Names select.page [] (select.order.map SortKey.column) := by
  have sorted : Names select.sorted [] (select.order.map SortKey.column) := by
    unfold sorted
    cases order : select.order with
    | nil => exact .nil
    | cons key rest =>
      have keys : Forall₂ (Names · []) ((key :: rest).map SortKey.tokens)
          ((key :: rest).map fun key => [key.column]) := by
        rw [List.forall₂_map_left_iff, List.forall₂_map_right_iff]
        exact List.forall₂_same.2 fun key _ => key.names
      have listed := Names.intercalate (by decide : Neither ",") keys
      rw [← List.flatMap_def, ← List.map_eq_flatMap] at listed
      exact .symbol (by decide) (.symbol (by decide) listed)
  have whole := sorted.append (names_paged select.take select.skip)
  rwa [List.append_nil, List.append_nil] at whole

theorem names_asked (select : Select) :
    Names select.asked [] (select.clauses.flatMap Clause.columns) := by
  rw [List.flatMap_def, ← Clause.columnsEach_eq]
  unfold asked
  cases clauses : select.clauses with
  | nil => exact .nil
  | cons clause rest =>
    exact .symbol (by decide) (.intercalate (by decide) (Clause.names_each (clause :: rest)))

theorem names_joins (joins : List Join) {tokens : List Token} {columns : List ColumnName}
    (later : Names tokens [] columns) :
    Names (joins.flatMap Join.tokens ++ tokens) (joins.map Join.table)
      (joins.flatMap Join.columns ++ columns) := by
  induction joins with
  | nil => exact later
  | cons join rest ih =>
    rw [List.flatMap_cons, List.flatMap_cons, List.append_assoc, List.append_assoc]
    exact join.names ih

theorem names_projections (select : Select) :
    Names (if select.projections.isEmpty then [.symbol "*"]
      else commas (select.projections.map Projection.tokens)) []
      (select.projections.flatMap Projection.columns) := by
  cases projections : select.projections with
  | nil => exact .symbol (by decide) .nil
  | cons projection rest =>
    refine .intercalate (by decide) ?_
    rw [List.forall₂_map_left_iff, List.forall₂_map_right_iff]
    exact List.forall₂_same.2 fun projection _ => projection.names

theorem names_tokens (select : Select) :
    Names (select.shown ++ (select.asked ++ select.page)) select.tables select.columns := by
  have behind := names_joins select.joins (select.names_asked.append select.names_page)
  have source := Names.table (.inl rfl) select.table behind
  have whole := Names.symbol (by decide : Neither "SELECT") (select.names_projections.append source)
  simpa only [shown, tables, columns, List.append_assoc, List.cons_append, List.nil_append] using whole

/-- **The tables and the columns that are found in the text of a select** are its own. -/
theorem tokens?_found (select : Select) :
    ∃ tokens, tokens? select.fragment.text select.fragment.params = some tokens ∧
      introduced tokens = select.tables ∧ references tokens = select.columns := by
  have read := (select.tells (Clause.tells_conjunction select.clauses)).tokens?_eq
  exact ⟨_, read, select.names_tokens.introduced_eq, select.names_tokens.references_eq⟩

end Select

end SqlCraft
