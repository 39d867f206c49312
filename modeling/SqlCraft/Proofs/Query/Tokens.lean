/-
**What a select is read as.**

Each part of a select is read as the names and words that it consists of, whatever characters the names
have: nothing reaches from a name into the words around it, or out of them.

* `Projection.tokens`, `Join.tokens`, `SortKey.tokens` — the tokens of what a select lists;
* `Select.shown`, `Select.page` — the tokens before and behind the `WHERE` part;
* `Select.tells` — the tokens of a select, given those of its condition.
-/

import SqlCraft.Proofs.Sql.Token
import SqlCraft.Query.Select

namespace SqlCraft

open Sql

/-! ### Columns, projections, joins and sort keys -/

/-- The tokens of a column. -/
def Sql.ColumnName.tokens (column : ColumnName) : List Token :=
  [.name column.table, .symbol ".", .name column.field]

theorem Sql.Fragment.Tells.column {fragment : Fragment} {tokens : List Token} (column : ColumnName)
    (opens : fragment.Opens) (later : fragment.Tells tokens) :
    Fragment.Tells (column.fragment ++ fragment) (column.tokens ++ tokens) :=
  .name _ (.word (by decide) _) (.word ["."] (by decide +kernel) (.name _ opens later))

/-- The tokens of a projection. -/
def Projection.tokens : Projection → List Token
  | .column name => name.tokens
  | .aggregate function operand label =>
    [.symbol function.name, .symbol "("] ++ (operand.map ColumnName.tokens).getD [.symbol "*"] ++
      [.symbol ")", .symbol "AS", .name label]

theorem Projection.tells (projection : Projection) :
    projection.fragment.Tells projection.tokens := by
  cases projection with
  | column name => exact .column name .nil .nil
  | aggregate function operand label =>
    have word : lex (function.name ++ "(").toList = some ([function.name, "("].map .symbol) ∧
        (function.name ++ "(").toList.getLast?.all isApart := by
      cases function <;> decide +kernel
    have labelled : Fragment.Tells [.word ") AS ", .identifier label]
        [.symbol ")", .symbol "AS", .name label] :=
      .word [")", "AS"] (by decide +kernel) (.name label .nil .nil)
    cases operand with
    | none => exact .word _ word (.word ["*"] (by decide +kernel) labelled)
    | some name => exact .word _ word (.column name (.word (by decide) _) labelled)

/-- The tokens of a join. -/
def Join.tokens (join : Join) : List Token :=
  [.symbol "LEFT", .symbol "JOIN", .name join.table, .symbol "ON"] ++ join.left.tokens ++
    .symbol "=" :: join.right.tokens

theorem Join.tells (join : Join) {fragment : Fragment} {tokens : List Token}
    (opens : fragment.Opens) (later : fragment.Tells tokens) :
    Fragment.Tells (join.fragment ++ fragment) (join.tokens ++ tokens) :=
  .word ["LEFT", "JOIN"] (by decide +kernel) <| .name _ (.word (by decide) _) <|
    .word ["ON"] (by decide +kernel) <| .column join.left (.word (by decide) _) <|
    .word ["="] (by decide +kernel) <| .column join.right opens later

/-- The tokens of a sort key. -/
def SortKey.tokens (key : SortKey) : List Token := key.column.tokens ++ [.symbol key.direction.keyword]

theorem SortKey.tells (key : SortKey) : key.fragment.Tells key.tokens := by
  have word : lex (" " ++ key.direction.keyword).toList =
      some ([key.direction.keyword].map .symbol) := by
    cases key.direction <;> decide +kernel
  refine .column key.column ?_ (.word_of_opens word .nil .nil)
  cases key.direction <;> exact .word (by decide) _

/-! ### Parts of a select -/

namespace Select

/-- The tokens before the `WHERE` part. -/
def shown (select : Select) : List Token :=
  .symbol "SELECT" ::
    (if select.projections.isEmpty then [.symbol "*"]
      else commas (select.projections.map Projection.tokens)) ++
    [.symbol "FROM", .name select.table] ++ select.joins.flatMap Join.tokens

/-- The tokens of the order. -/
def sorted (select : Select) : List Token :=
  if select.order.isEmpty then []
  else [.symbol "ORDER", .symbol "BY"] ++ commas (select.order.map SortKey.tokens)

/-- The tokens of the page. -/
def paged : (take skip : Option Nat) → List Token
  | some take, some skip =>
    [.symbol "LIMIT", .symbol (toString take), .symbol "OFFSET", .symbol (toString skip)]
  | some take, none => [.symbol "LIMIT", .symbol (toString take)]
  | none, some skip =>
    [.symbol "LIMIT", .symbol (toString maxLimit), .symbol "OFFSET", .symbol (toString skip)]
  | none, none => []

/-- The tokens behind the `WHERE` part. -/
def page (select : Select) : List Token := select.sorted ++ paged select.take select.skip

theorem tells_limit (take : Nat) {fragment : Fragment} {tokens : List Token}
    (opens : fragment.Opens) (later : fragment.Tells tokens) :
    Fragment.Tells (.word (" LIMIT " ++ toString take) :: fragment)
      (.symbol "LIMIT" :: .symbol (toString take) :: tokens) := by
  have pieces : Fragment.Tells (.word " LIMIT " :: .word (toString take) :: fragment)
      (["LIMIT"].map .symbol ++ ([toString take].map .symbol ++ tokens)) :=
    .word ["LIMIT"] (by decide +kernel) (.word_of_opens (lex_number take) opens later)
  refine .of_text_eq ?_ ?_ pieces
  · simp [Piece.text, String.append_assoc]
  · rfl

theorem tells_offset (skip : Nat) :
    Fragment.Tells [.word (" OFFSET " ++ toString skip)]
      [.symbol "OFFSET", .symbol (toString skip)] := by
  have pieces : Fragment.Tells [.word " OFFSET ", .word (toString skip)]
      (["OFFSET"].map .symbol ++ ([toString skip].map .symbol ++ [])) :=
    .word ["OFFSET"] (by decide +kernel) (.word_of_opens (lex_number skip) .nil .nil)
  refine .of_text_eq ?_ ?_ pieces
  · simp [Piece.text]
  · rfl

theorem text_limited (take skip : Nat) :
    s!" LIMIT {take} OFFSET {skip}" = " LIMIT " ++ toString take ++ (" OFFSET " ++ toString skip) :=
  String.append_assoc

theorem tells_page (take skip : Option Nat) :
    (pageFragment take skip).Tells (paged take skip) := by
  have limited (take skip : Nat) : Fragment.Tells [.word s!" LIMIT {take} OFFSET {skip}"]
      [.symbol "LIMIT", .symbol (toString take), .symbol "OFFSET", .symbol (toString skip)] := by
    have opens : Fragment.Opens [.word (" OFFSET " ++ toString skip)] :=
      .word_append (by decide) _ _
    rw [text_limited]
    refine .of_text_eq ?_ ?_ (tells_limit take opens (tells_offset skip))
    · simp only [Fragment.text_cons, Piece.text, String.append_assoc]
    · rfl
  cases take with
  | some take =>
    cases skip with
    | some skip => exact limited take skip
    | none => exact tells_limit take .nil .nil
  | none =>
    cases skip with
    | some skip => exact limited maxLimit skip
    | none => exact .nil

theorem opens_page (take skip : Option Nat) : (pageFragment take skip).Opens := by
  have limited (take skip : Nat) : Fragment.Opens [.word s!" LIMIT {take} OFFSET {skip}"] := by
    rw [text_limited, String.append_assoc]
    exact .word_append (by decide) _ _
  cases take with
  | some take =>
    cases skip with
    | some skip => exact limited take skip
    | none => exact .word_append (by decide) _ _
  | none =>
    cases skip with
    | some skip => exact limited maxLimit skip
    | none => exact .nil

theorem tells_sorted (select : Select) {fragment : Fragment} {tokens : List Token}
    (opens : fragment.Opens) (later : fragment.Tells tokens) :
    Fragment.Tells
      ((if select.order.isEmpty then []
        else .word " ORDER BY " :: Fragment.join ", " (select.order.map SortKey.fragment)) ++ fragment)
      (select.sorted ++ tokens) := by
  unfold sorted
  split
  · exact later
  · have keys := Fragment.Tells.commas fun key (_ : key ∈ select.order) => key.tells
    exact .word ["ORDER", "BY"] (by decide +kernel) (keys.append opens later)

theorem opens_sorted (select : Select) {fragment : Fragment} (opens : fragment.Opens) :
    Fragment.Opens
      ((if select.order.isEmpty then []
        else .word " ORDER BY " :: Fragment.join ", " (select.order.map SortKey.fragment)) ++
        fragment) := by
  split
  · exact opens
  · exact .word (by decide) _

theorem tells_joins (joins : List Join) {fragment : Fragment} {tokens : List Token}
    (opens : fragment.Opens) (later : fragment.Tells tokens) :
    Fragment.Tells ((joins.flatMap fun join => .word " " :: join.fragment) ++ fragment)
        (joins.flatMap Join.tokens ++ tokens) ∧
      Fragment.Opens ((joins.flatMap fun join => .word " " :: join.fragment) ++ fragment) := by
  induction joins with
  | nil => exact ⟨later, opens⟩
  | cons join rest ih =>
    rw [List.flatMap_cons, List.flatMap_cons, List.append_assoc, List.append_assoc]
    exact ⟨.word [] (by decide +kernel) (join.tells ih.2 ih.1), .word (by decide) _⟩

theorem tells_where {clauses : List Clause} {condition : List Token}
    (asked : (Clause.conjunction clauses).Tells condition) {fragment : Fragment}
    {tokens : List Token} (opens : fragment.Opens) (later : fragment.Tells tokens) :
    Fragment.Tells (Clause.whereFragment clauses ++ fragment)
        ((if clauses.isEmpty then [] else .symbol "WHERE" :: condition) ++ tokens) ∧
      Fragment.Opens (Clause.whereFragment clauses ++ fragment) := by
  unfold Clause.whereFragment
  split
  · exact ⟨later, opens⟩
  · exact ⟨.word ["WHERE"] (by decide +kernel) (asked.append opens later), .word (by decide) _⟩

theorem tells_projections (projections : List Projection) {fragment : Fragment}
    {tokens : List Token} (opens : fragment.Opens) (later : fragment.Tells tokens) :
    Fragment.Tells
      ((if projections.isEmpty then [.word "*"]
        else Fragment.join ", " (projections.map Projection.fragment)) ++ fragment)
      ((if projections.isEmpty then [.symbol "*"]
        else commas (projections.map Projection.tokens)) ++ tokens) := by
  split
  · exact .word ["*"] (by decide +kernel) later
  · have each := Fragment.Tells.commas fun projection (_ : projection ∈ projections) =>
      projection.tells
    exact each.append opens later

/-- **What a select is read as**, given what its condition is read as. -/
theorem tells (select : Select) {condition : List Token}
    (asked : (Clause.conjunction select.clauses).Tells condition) :
    select.fragment.Tells (select.shown ++
      ((if select.clauses.isEmpty then [] else .symbol "WHERE" :: condition) ++ select.page)) := by
  have page := tells_sorted select (opens_page select.take select.skip)
    (tells_page select.take select.skip)
  have asks := tells_where asked (opens_sorted select (opens_page select.take select.skip)) page
  have joined := tells_joins select.joins asks.2 asks.1
  have tables : Fragment.Tells (.word " FROM " :: .identifier select.table :: _) _ :=
    .word ["FROM"] (by decide +kernel) (.name select.table joined.2 joined.1)
  have shown := tells_projections select.projections (.word (by decide) _) tables
  have whole : Fragment.Tells (.word "SELECT " :: _) _ := .word ["SELECT"] (by decide +kernel) shown
  simpa only [fragment, Select.shown, Select.page, List.map_cons, List.map_nil, List.cons_append,
    List.nil_append, List.append_assoc] using whole

end Select

end SqlCraft
