/-
**What the text of a select lists, and how it joins.**

The list of a select stands between `SELECT` and `FROM` and is read part by part; a star alone lists
nothing in particular. A join is read wherever it stands in the text: no name, value or page looks like the
start of one, so that the joins that are found are those that were written, in order.

* `Projection.listed?`, `Join.among` — what tokens list, and the joins among them;
* `Join.among_append`, `Join.among_cons` — joins are found one behind the other;
* `Select.tokens?_listed` — a select is read as listing its projections, with its joins.
-/

import SqlCraft.Proofs.Query.Columns
import SqlCraft.Proofs.Sql.Written

namespace SqlCraft

open Sql

/-! ### The reader -/

/-- The function of a name. -/
def AggregateFunction.ofName? : String → Option AggregateFunction
  | "COUNT" => some .count
  | "MAX" => some .max
  | "MIN" => some .min
  | "SUM" => some .sum
  | "AVG" => some .avg
  | _ => none

/-- What a part of a list stands for. -/
def Projection.ofTokens? : List Token → Option Projection
  | [.name table, .symbol ".", .name field] => some (.column ⟨table, field⟩)
  | [.symbol function, .symbol "(", .symbol "*", .symbol ")", .symbol "AS", .name label] =>
    (AggregateFunction.ofName? function).map (.aggregate · none label)
  | [.symbol function, .symbol "(", .name table, .symbol ".", .name field, .symbol ")", .symbol "AS",
      .name label] =>
    (AggregateFunction.ofName? function).map (.aggregate · (some ⟨table, field⟩) label)
  | _ => none

/-- What tokens list between `SELECT` and `FROM`. -/
def Projection.listed? : List Token → Option (List Projection)
  | .symbol "SELECT" :: rest =>
    let list := before "FROM" rest
    if list = [.symbol "*"] then some [] else (parts list).mapM ofTokens?
  | _ => none

/-- The join that tokens start with. -/
def Join.starting? : List Token → Option Join
  | .symbol "LEFT" :: .symbol "JOIN" :: .name table :: .symbol "ON" ::
      .name leftTable :: .symbol "." :: .name leftField :: .symbol "=" ::
      .name rightTable :: .symbol "." :: .name rightField :: _ =>
    some ⟨table, ⟨leftTable, leftField⟩, ⟨rightTable, rightField⟩⟩
  | _ => none

/-- The joins among tokens, wherever they start. -/
def Join.among (tokens : List Token) : List Join := tokens.tails.filterMap starting?

/-! ### The list -/

/-- The words of projections. -/
def Projection.words : List String :=
  [".", "(", ")", "*", "AS", "COUNT", "MAX", "MIN", "SUM", "AVG"]

theorem Projection.not_mem_tokens {word : String} (other : word ∉ words) (projection : Projection) :
    .symbol word ∉ projection.tokens := by
  have apart : ∀ known ∈ words, word ≠ known := fun known inside same => other (same ▸ inside)
  simp only [words, List.forall_mem_cons] at apart
  cases projection with
  | column name => simp [tokens, ColumnName.tokens, apart]
  | aggregate function operand label =>
    cases function <;> cases operand <;>
      simp [tokens, ColumnName.tokens, AggregateFunction.name, apart]

theorem Projection.ofTokens?_tokens (projection : Projection) :
    ofTokens? projection.tokens = some projection := by
  cases projection with
  | column name => rfl
  | aggregate function operand label =>
    cases operand <;> cases function <;> rfl

/-- The tokens of a list of projections. -/
def projectionTokens (projections : List Projection) : List Token :=
  if projections.isEmpty then [.symbol "*"] else commas (projections.map Projection.tokens)

theorem not_mem_projectionTokens {word : String} (other : word ∉ "," :: Projection.words)
    (projections : List Projection) : .symbol word ∉ projectionTokens projections := by
  rw [List.mem_cons, not_or] at other
  unfold projectionTokens
  split
  · intro inside
    rw [List.mem_singleton] at inside
    cases inside
    exact other.2 (by decide)
  · exact not_mem_commas other.1 fun projection _ => projection.not_mem_tokens other.2

theorem Projection.three_le_length (projection : Projection) : 3 ≤ projection.tokens.length := by
  cases projection with
  | column name => exact Nat.le_refl 3
  | aggregate function operand label =>
    simp only [tokens, List.length_append, List.length_cons]
    omega

theorem Projection.listed?_projections (projections : List Projection) (behind : List Token) :
    listed? (.symbol "SELECT" :: (projectionTokens projections ++ .symbol "FROM" :: behind)) =
      some projections := by
  have list : before "FROM" (projectionTokens projections ++ .symbol "FROM" :: behind) =
      projectionTokens projections :=
    before_append (not_mem_projectionTokens (by decide) projections) behind
  rw [listed?, list]
  cases projections with
  | nil => rfl
  | cons projection rest =>
    have long : 3 ≤ (projectionTokens (projection :: rest)).length := by
      have first := projection.three_le_length
      cases rest with
      | nil => simpa [projectionTokens, commas] using first
      | cons next rest => simp [projectionTokens, commas_cons_cons]; omega
    have other : projectionTokens (projection :: rest) ≠ [.symbol "*"] := by
      intro same
      simp [same] at long
    have read := mapM_parts_commas Projection.tokens Projection.ofTokens? id (projection :: rest)
      (fun projection _ => projection.ofTokens?_tokens) fun projection _ =>
        ⟨List.ne_nil_of_length_pos (by have := projection.three_le_length; omega),
          projection.not_mem_tokens (by decide)⟩
    rw [List.map_id] at read
    exact (if_neg other).trans read

/-! ### The joins -/

namespace Join

/-- Tokens without the first word of a join have none. -/
theorem among_append {left : List Token} (absent : .symbol "LEFT" ∉ left) (right : List Token) :
    among (left ++ right) = among right := by
  induction left with
  | nil => rfl
  | cons token left ih =>
    rw [List.mem_cons, not_or] at absent
    -- A join starts with its first word, so that none starts before the right part.
    have none : starting? (token :: (left ++ right)) = none := by
      unfold starting?
      split
      · rename_i shape
        exact absurd (List.cons.inj shape).1.symm absent.1
      · rfl
    rw [← ih absent.2, List.cons_append, among, List.tails, List.filterMap_cons_none none, among]

theorem among_eq_nil {tokens : List Token} (absent : .symbol "LEFT" ∉ tokens) : among tokens = [] := by
  have whole := among_append absent []
  rwa [List.append_nil] at whole

/-- A join is found where it was written. -/
theorem among_cons (join : Join) (rest : List Token) :
    among (join.tokens ++ rest) = join :: among rest := by
  have behind : .symbol "LEFT" ∉ join.tokens.tail := by simp [tokens, ColumnName.tokens]
  rw [← among_append behind rest]
  rfl

theorem among_joins (joins : List Join) (rest : List Token) :
    among (joins.flatMap tokens ++ rest) = joins ++ among rest := by
  induction joins with
  | nil => rfl
  | cons join joins ih => rw [List.flatMap_cons, List.append_assoc, among_cons, ih, List.cons_append]

end Join

/-! ### Around the joins -/

/-- The words of clauses. -/
def Clause.words : List String :=
  ["AND", "OR", "(", ")", ".", "IS", "NOT", "NULL", "=", "!=", "<", "<=", ">", ">="]

section

variable {word : String}

theorem Test.not_mem_tokens (other : word ∉ Clause.words) (column : ColumnName) (asked : Test) :
    .symbol word ∉ asked.tokens column := by
  have apart : ∀ known ∈ Clause.words, word ≠ known := fun known inside same => other (same ▸ inside)
  simp only [Clause.words, List.forall_mem_cons] at apart
  cases asked with
  | isNull | isNotNull => simp [tokens, ColumnName.tokens, apart]
  | compare operator value => cases operator <;> simp [tokens, ColumnName.tokens, Operator.sign, apart]

theorem not_mem_intercalate {separator : String} {parts : List (List Token)} (other : word ≠ separator)
    (absent : ∀ part ∈ parts, .symbol word ∉ part) :
    .symbol word ∉ [Token.symbol separator].intercalate parts := by
  have each : ∀ token ∈ [Token.symbol separator].intercalate parts, token ≠ .symbol word := by
    refine forall_mem_intercalate (by simpa using Ne.symm other) fun part inside token within same => ?_
    exact absent part inside (same ▸ within)
  exact fun inside => each _ inside rfl

namespace Clause

theorem not_mem_bracketed (other : word ∉ words) {tokens : List Token}
    (absent : .symbol word ∉ tokens) : .symbol word ∉ bracketed tokens := by
  have left : word ≠ "(" := fun same => other (by simp [same, words])
  have right : word ≠ ")" := fun same => other (by simp [same, words])
  simp [bracketed, absent, left, right]

mutual

theorem not_mem_tokens (other : word ∉ words) : ∀ clause : Clause, .symbol word ∉ clause.tokens
  | .column name tests => by
    rw [tokens]
    refine not_mem_intercalate (fun same => other (by simp [same, words])) ?_
    intro part inside
    obtain ⟨asked, -, rfl⟩ := List.mem_map.1 inside
    exact asked.not_mem_tokens other name
  | .group joiner members => by
    rw [tokens]
    refine not_mem_bracketed other (not_mem_intercalate ?_ (not_mem_memberTokens other members))
    cases joiner <;> exact fun same => other (by simp [same, words, Joiner.keyword])

theorem not_mem_tokensEach (other : word ∉ words) : ∀ clauses : List Clause,
    ∀ part ∈ tokensEach clauses, .symbol word ∉ part
  | [] => nofun
  | clause :: rest => by
    rw [tokensEach, List.forall_mem_cons]
    exact ⟨not_mem_tokens other clause, not_mem_tokensEach other rest⟩

theorem not_mem_memberTokens (other : word ∉ words) : ∀ members : List (List Clause),
    ∀ part ∈ memberTokens members, .symbol word ∉ part
  | [] => nofun
  | member :: rest => by
    rw [memberTokens, List.forall_mem_cons]
    refine ⟨?_, not_mem_memberTokens other rest⟩
    have joined : .symbol word ∉ [Token.symbol "AND"].intercalate (tokensEach member) :=
      not_mem_intercalate (fun same => other (by simp [same, words])) (not_mem_tokensEach other member)
    split
    · exact not_mem_bracketed other joined
    · exact joined

end

end Clause

end

theorem SortKey.left_not_mem (key : SortKey) : .symbol "LEFT" ∉ key.tokens := by
  cases direction : key.direction <;> simp [tokens, ColumnName.tokens, direction, Direction.keyword]

namespace Select

theorem left_not_mem_asked (select : Select) : .symbol "LEFT" ∉ select.asked := by
  unfold asked
  split
  · exact List.not_mem_nil
  · have clauses := Clause.not_mem_tokensEach (by decide : "LEFT" ∉ Clause.words) select.clauses
    exact List.not_mem_cons_of_ne_of_not_mem (by decide) (not_mem_intercalate (by decide) clauses)

theorem left_not_mem_page (select : Select) : .symbol "LEFT" ∉ select.page := by
  have number (count : Nat) : Token.symbol "LEFT" ≠ .symbol (toString count) := fun same =>
    number_ne (by decide) count (Token.symbol.inj same).symm
  rw [page, List.mem_append, not_or]
  constructor
  · unfold sorted
    split
    · exact List.not_mem_nil
    · have keys := not_mem_commas (by decide : "LEFT" ≠ ",") fun key (_ : key ∈ select.order) =>
        key.left_not_mem
      simpa using keys
  · cases select.take <;> cases select.skip <;>
      simp only [paged, List.mem_cons, List.not_mem_nil, number, or_false, not_or, not_false_eq_true] <;>
        decide

/-- **A select is read as listing its projections, with its joins.** -/
theorem tokens?_listed (select : Select) :
    ∃ tokens, tokens? select.fragment.text select.fragment.params = some tokens ∧
      Projection.listed? tokens = some select.projections ∧ Join.among tokens = select.joins := by
  have read := (select.tells (Clause.tells_conjunction select.clauses)).tokens?_eq
  have shape : select.shown ++ (select.asked ++ select.page) =
      .symbol "SELECT" :: (projectionTokens select.projections ++ .symbol "FROM" ::
        .name select.table :: (select.joins.flatMap Join.tokens ++ (select.asked ++ select.page))) := by
    simp only [shown, projectionTokens, List.append_assoc, List.cons_append, List.nil_append]
  refine ⟨select.shown ++ (select.asked ++ select.page), read, ?_, ?_⟩
  · rw [shape, Projection.listed?_projections]
  · have list := not_mem_projectionTokens (by decide : "LEFT" ∉ "," :: Projection.words)
      select.projections
    calc Join.among (select.shown ++ (select.asked ++ select.page))
        = Join.among ((.symbol "SELECT" :: projectionTokens select.projections ++
            [.symbol "FROM", .name select.table]) ++
            (select.joins.flatMap Join.tokens ++ (select.asked ++ select.page))) := by
          rw [shape]
          simp only [List.append_assoc, List.cons_append, List.nil_append]
      _ = Join.among (select.joins.flatMap Join.tokens ++ (select.asked ++ select.page)) :=
          Join.among_append (by simpa using list) _
      _ = select.joins ++ Join.among (select.asked ++ select.page) := Join.among_joins select.joins _
      _ = select.joins := by
          rw [Join.among_append select.left_not_mem_asked, Join.among_eq_nil select.left_not_mem_page,
            List.append_nil]

end Select

end SqlCraft
