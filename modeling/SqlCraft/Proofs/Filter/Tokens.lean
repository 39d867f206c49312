/-
**What the clauses of a filter are read as.**

A clause is read as the columns, signs and values of its tests, with the brackets and the words that join
them.

* `Test.tokens`, `Clause.tokens` — the tokens of a test and of a clause;
* `Clause.tells_conjunction` — the tokens of clauses joined by `AND`.
-/

import SqlCraft.Filter.Clause
import SqlCraft.Proofs.Query.Tokens

namespace SqlCraft

open Sql
open List (Forall₂)

/-! ### Tests -/

/-- The tokens of a test. -/
def Test.tokens (column : ColumnName) : Test → List Token
  | .isNull => column.tokens ++ [.symbol "IS", .symbol "NULL"]
  | .isNotNull => column.tokens ++ [.symbol "IS", .symbol "NOT", .symbol "NULL"]
  | .compare operator value => column.tokens ++ [.symbol operator.sign, .value value]

theorem Test.tells (column : ColumnName) (asked : Test) :
    (asked.fragment column).Tells (asked.tokens column) := by
  cases asked with
  | isNull =>
    have word : lex " IS NULL".toList = some (["IS", "NULL"].map .symbol) := by decide +kernel
    exact .column column (.word (by decide) _) (.word_of_opens word .nil .nil)
  | isNotNull =>
    have word : lex " IS NOT NULL".toList = some (["IS", "NOT", "NULL"].map .symbol) := by
      decide +kernel
    exact .column column (.word (by decide) _) (.word_of_opens word .nil .nil)
  | compare operator value =>
    have word : lex (" " ++ operator.sign ++ " ").toList = some ([operator.sign].map .symbol) ∧
        (" " ++ operator.sign ++ " ").toList.getLast?.all isApart := by
      cases operator <;> decide +kernel
    refine .column column ?_ (.word _ word (.slot value .nil))
    cases operator <;> exact .word (by decide) _

/-! ### Clauses -/

/-- Tokens in brackets. -/
def Sql.bracketed (tokens : List Token) : List Token := .symbol "(" :: tokens ++ [.symbol ")"]

theorem Sql.Fragment.Tells.parenthesized {fragment : Fragment} {tokens : List Token}
    (tells : fragment.Tells tokens) :
    Fragment.Tells (Fragment.parenthesized fragment) (bracketed tokens) :=
  .word ["("] (by decide +kernel)
    (tells.append (.word (by decide) _) (.word [")"] (by decide +kernel) .nil))

namespace Clause

mutual

/-- The tokens of a clause. -/
def tokens : Clause → List Token
  | .column name tests => [Token.symbol "AND"].intercalate (tests.map (Test.tokens name))
  | .group joiner members =>
    bracketed ([Token.symbol joiner.keyword].intercalate (memberTokens members))

/-- The tokens of each of some clauses. -/
def tokensEach : List Clause → List (List Token)
  | [] => []
  | clause :: rest => clause.tokens :: tokensEach rest

/-- The tokens of each member of a group. -/
def memberTokens : List (List Clause) → List (List Token)
  | [] => []
  | member :: rest =>
    let joined := [Token.symbol "AND"].intercalate (tokensEach member)
    (if isCompound member then bracketed joined else joined) :: memberTokens rest

end

/-- What is joined by `AND`. -/
theorem tells_and {fragments : List Fragment} {parts : List (List Token)}
    (tells : Forall₂ Fragment.Tells fragments parts) :
    Fragment.Tells (Fragment.join " AND " fragments) ([Token.symbol "AND"].intercalate parts) :=
  .join (by decide) (by decide +kernel) tells

mutual

theorem tells : ∀ clause : Clause, clause.fragment.Tells clause.tokens
  | .column name tests => by
    rw [fragment, tokens]
    refine tells_and ?_
    rw [List.forall₂_map_left_iff, List.forall₂_map_right_iff]
    exact List.forall₂_same.2 fun asked _ => asked.tells name
  | .group joiner members => by
    rw [fragment, tokens]
    refine .parenthesized (.join ?_ ?_ (tells_members members)) <;> cases joiner <;> decide +kernel

theorem tells_each : ∀ clauses : List Clause,
    Forall₂ Fragment.Tells (fragments clauses) (tokensEach clauses)
  | [] => .nil
  | clause :: rest => .cons clause.tells (tells_each rest)

theorem tells_members : ∀ members : List (List Clause),
    Forall₂ Fragment.Tells (memberFragments members) (memberTokens members)
  | [] => .nil
  | member :: rest => by
    rw [memberFragments, memberTokens]
    refine .cons ?_ (tells_members rest)
    have joined := tells_and (tells_each member)
    split
    · exact joined.parenthesized
    · exact joined

end

/-- **What clauses joined by `AND` are read as.** -/
theorem tells_conjunction (clauses : List Clause) :
    (conjunction clauses).Tells ([Token.symbol "AND"].intercalate (tokensEach clauses)) :=
  tells_and (tells_each clauses)

end Clause

end SqlCraft
