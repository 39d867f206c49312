/-
**Fragments and the conditions they are read as.**

A fragment that stands where an operand is expected is read as a list of alternatives: the first
goes on with the conjuncts that were read before, and each further one stands behind an `OR`. The
parameters that are taken are exactly the fragment's own, so fragments can be put together:

* `Reads.test` — a test is read as one conjunct;
* `Reads.and`, `Reads.or`, `Reads.parenthesized` — joined fragments, and a fragment in brackets;
* `Reads.read?` — what a whole text is read as.
-/

import Mathlib.Data.List.Forall2
import SqlCraft.Proofs.Sql.Predicate

namespace SqlCraft.Sql

/-- The level behind alternatives that are read in it: the first goes on with the conjuncts that are
there, each further one stands behind an `OR`. -/
def Level.extend (level : Level) : List (List Predicate) → Level
  | [] => level
  | [conjuncts] => ⟨level.finished, level.conjuncts ++ conjuncts⟩
  | conjuncts :: second :: rest =>
    extend ⟨level.finished ++ [level.conjuncts ++ conjuncts], []⟩ (second :: rest)

theorem Level.alternatives_extend (level : Level) (first : List Predicate)
    (rest : List (List Predicate)) :
    (level.extend (first :: rest)).alternatives =
      level.finished ++ (level.conjuncts ++ first) :: rest := by
  induction rest generalizing level first with
  | nil => rfl
  | cons second rest ih =>
    rw [extend, ih, List.nil_append, List.append_assoc, List.singleton_append]

theorem Level.extend_append (level : Level) (first : List Predicate)
    {left right : List (List Predicate)} (some : right ≠ []) :
    level.extend (first :: left ++ right) = (level.extend (first :: left)).next.extend right := by
  induction left generalizing level first with
  | nil =>
    obtain ⟨second, rest, rfl⟩ := List.exists_cons_of_ne_nil some
    rfl
  | cons second left ih =>
    exact ih _ second

namespace Fragment

/-- Where an operand is expected, the fragment is read as the alternatives, and its own parameters
are taken. -/
def Reads (fragment : Fragment) (alternatives : List (List Predicate)) : Prop :=
  ∃ lexemes, fragment.Spells lexemes ∧ ∀ level around params,
    lexemes.foldlM Reading.step ⟨.start, level, around, fragment.params ++ params⟩ =
      some ⟨.complete, level.extend alternatives, around, params⟩

/-! ### Tests -/

theorem lex_isNull {rest : List Char} (boundary : Boundary rest) :
    lex (" IS NULL".toList ++ rest) = (lex rest).map ([.symbol "IS", .symbol "NULL"] ++ ·) := by
  have written : " IS NULL".toList ++ rest =
      ' ' :: (('I' :: ['S']) ++ ' ' :: (('N' :: ['U', 'L', 'L']) ++ rest)) := rfl
  rw [written, lex_blank, lex_symbol ['S'] (by decide) (by decide) (Boundary.blank.ends _),
    lex_blank, lex_symbol ['U', 'L', 'L'] (by decide) (by decide) (boundary.ends _), Option.map_map]
  rfl

theorem lex_isNotNull {rest : List Char} (boundary : Boundary rest) :
    lex (" IS NOT NULL".toList ++ rest) =
      (lex rest).map ([.symbol "IS", .symbol "NOT", .symbol "NULL"] ++ ·) := by
  have written : " IS NOT NULL".toList ++ rest = ' ' :: (('I' :: ['S']) ++
      ' ' :: (('N' :: ['O', 'T']) ++ ' ' :: (('N' :: ['U', 'L', 'L']) ++ rest))) := rfl
  rw [written, lex_blank, lex_symbol ['S'] (by decide) (by decide) (Boundary.blank.ends _),
    lex_blank, lex_symbol ['O', 'T'] (by decide) (by decide) (Boundary.blank.ends _),
    lex_blank, lex_symbol ['U', 'L', 'L'] (by decide) (by decide) (boundary.ends _),
    Option.map_map, Option.map_map]
  rfl

/-- A symbol between blanks is read alone. -/
theorem lex_spaced (c : Char) (letters rest : List Char)
    (plain : c ≠ ' ' ∧ c ≠ '?' ∧ c ≠ '\x60') (within : letters.all (Lexeme.continues c)) :
    lex (' ' :: (c :: letters ++ ' ' :: rest)) =
      (lex rest).map (.symbol (String.ofList (c :: letters)) :: ·) := by
  rw [lex_blank, lex_symbol letters plain within (Boundary.blank.ends c), lex_blank]

theorem lex_sign (operator : Operator) (rest : List Char) :
    lex ((" " ++ operator.sign ++ " ").toList ++ rest) =
      (lex rest).map (.symbol operator.sign :: ·) := by
  cases operator with
  | equal => exact lex_spaced '=' [] rest (by decide) (by decide)
  | not => exact lex_spaced '!' ['='] rest (by decide) (by decide)
  | lt => exact lex_spaced '<' [] rest (by decide) (by decide)
  | lte => exact lex_spaced '<' ['='] rest (by decide) (by decide)
  | gt => exact lex_spaced '>' [] rest (by decide) (by decide)
  | gte => exact lex_spaced '>' ['='] rest (by decide) (by decide)

/-- The lexemes behind the column of a test. -/
def testLexemes : Test → List Lexeme
  | .isNull => [.symbol "IS", .symbol "NULL"]
  | .isNotNull => [.symbol "IS", .symbol "NOT", .symbol "NULL"]
  | .compare operator _ => [.symbol operator.sign, .mark]

theorem spells_test (column : ColumnName) (asked : Test) :
    (asked.fragment column).Spells
      ([.name column.table, .symbol ".", .name column.field] ++ testLexemes asked) := by
  cases asked with
  | isNull =>
    refine column.spells.append (fun rest boundary => ?_) fun rest _ => Boundary.blank
    simpa [Piece.text, testLexemes] using lex_isNull boundary
  | isNotNull =>
    refine column.spells.append (fun rest boundary => ?_) fun rest _ => Boundary.blank
    simpa [Piece.text, testLexemes] using lex_isNotNull boundary
  | compare operator value =>
    refine column.spells.append (fun rest boundary => ?_) fun rest _ => ?_
    · have written : (text [.word (" " ++ operator.sign ++ " "), .slot value]).toList ++ rest =
          (" " ++ operator.sign ++ " ").toList ++ '?' :: rest := by
        simp [Piece.text]
      rw [written, lex_sign, lex_mark, Option.map_map]
      rfl
    · simpa [Piece.text] using Boundary.blank

/-- A test is read as one conjunct. -/
theorem Reads.test (column : ColumnName) (asked : Test) :
    Reads (asked.fragment column) [[.test column asked]] := by
  refine ⟨_, spells_test column asked, fun level around params => ?_⟩
  cases asked with
  | isNull => rfl
  | isNotNull => rfl
  | compare operator value =>
    cases operator <;> rfl

/-! ### Joined fragments -/

theorem lex_keyword (joiner : Joiner) (rest : List Char) :
    lex ((" " ++ joiner.keyword ++ " ").toList ++ rest) =
      (lex rest).map (.symbol joiner.keyword :: ·) := by
  cases joiner with
  | and => exact lex_spaced 'A' ['N', 'D'] rest (by decide) (by decide)
  | or => exact lex_spaced 'O' ['R'] rest (by decide) (by decide)

theorem Spells.joined {left right : Fragment} {first second : List Lexeme} (joiner : Joiner)
    (reads : left.Spells first) (readsRight : right.Spells second) :
    (left ++ .word (" " ++ joiner.keyword ++ " ") :: right).Spells
      (first ++ .symbol joiner.keyword :: second) := by
  refine reads.append (fun rest boundary => ?_) fun rest _ => ?_
  · rw [text_cons, Piece.text, String.toList_append, List.append_assoc, lex_keyword,
      readsRight rest boundary, Option.map_map]
    rfl
  · simpa [Piece.text] using Boundary.blank

/-- Conjuncts on both sides of an `AND` are conjuncts of one alternative. -/
theorem Reads.and {left right : Fragment} {first second : List Predicate}
    (reads : left.Reads [first]) (readsRight : right.Reads [second]) :
    (left ++ .word " AND " :: right).Reads [first ++ second] := by
  obtain ⟨lexemes, spells, run⟩ := reads
  obtain ⟨lexemesRight, spellsRight, runRight⟩ := readsRight
  refine ⟨_, spells.joined .and spellsRight, fun level around params => ?_⟩
  rw [List.foldlM_append, params_append, params_word, List.append_assoc, run]
  refine (runRight (level.extend [first]) around params).trans ?_
  simp only [Level.extend, List.append_assoc]

/-- An `OR` puts the alternatives of both sides one behind the other. -/
theorem Reads.or {left right : Fragment} {first second : List Predicate}
    {alternatives others : List (List Predicate)} (reads : left.Reads (first :: alternatives))
    (readsRight : right.Reads (second :: others)) :
    (left ++ .word " OR " :: right).Reads (first :: alternatives ++ second :: others) := by
  obtain ⟨lexemes, spells, run⟩ := reads
  obtain ⟨lexemesRight, spellsRight, runRight⟩ := readsRight
  refine ⟨_, spells.joined .or spellsRight, fun level around params => ?_⟩
  rw [List.foldlM_append, params_append, params_word, List.append_assoc, run]
  refine (runRight (level.extend (first :: alternatives)).next around params).trans ?_
  rw [Level.extend_append _ _ (List.cons_ne_nil _ _)]

theorem lex_opening (rest : List Char) : lex ('(' :: rest) = (lex rest).map (.symbol "(" :: ·) :=
  lex_symbol (c := '(') [] (by decide) (by decide) fun _ _ => rfl

theorem lex_closing (rest : List Char) : lex (')' :: rest) = (lex rest).map (.symbol ")" :: ·) :=
  lex_symbol (c := ')') [] (by decide) (by decide) fun _ _ => rfl

/-- Whatever stands between brackets is one conjunct outside of them. -/
theorem Reads.parenthesized {fragment : Fragment} {first : List Predicate}
    {alternatives : List (List Predicate)} (reads : fragment.Reads (first :: alternatives)) :
    (Fragment.parenthesized fragment).Reads [[.oneOf (first :: alternatives)]] := by
  obtain ⟨lexemes, spells, run⟩ := reads
  refine ⟨.symbol "(" :: lexemes ++ [.symbol ")"], fun rest boundary => ?_,
    fun level around params => ?_⟩
  · have written : (Fragment.parenthesized fragment).text.toList ++ rest =
        '(' :: (fragment.text.toList ++ ')' :: rest) := by
      simp [Fragment.parenthesized, Piece.text]
    rw [written, lex_opening, spells _ Boundary.closing, lex_closing, Option.map_map,
      Option.map_map]
    congr 1
    funext others
    simp
  · have inside : (Level.empty.extend (first :: alternatives)).alternatives =
        first :: alternatives := Level.alternatives_extend Level.empty first alternatives
    have opened : (lexemes ++ [Lexeme.symbol ")"]).foldlM Reading.step
          ⟨.start, .empty, level :: around, fragment.params ++ params⟩ =
        Reading.step ⟨.complete, Level.empty.extend (first :: alternatives), level :: around, params⟩
          (.symbol ")") := by
      rw [List.foldlM_append, run]
      rfl
    rw [params_parenthesized]
    refine opened.trans ?_
    simp only [Reading.step, Reading.operand, inside]
    rfl

/-- Fragments joined by `AND`, each read as conjuncts, are read as all the conjuncts. -/
theorem Reads.conjunction {fragment : Fragment} {fragments : List Fragment}
    {conjuncts : List Predicate} {parts : List (List Predicate)} (reads : fragment.Reads [conjuncts])
    (others : List.Forall₂ (fun fragment part => Reads fragment [part]) fragments parts) :
    (join " AND " (fragment :: fragments)).Reads [(conjuncts :: parts).flatten] := by
  induction others generalizing fragment conjuncts with
  | nil => simpa [join] using reads
  | cons next _ ih => exact reads.and (ih next)

/-- Fragments joined by `OR`, each read as conjuncts, are read as alternatives. -/
theorem Reads.disjunction {fragment : Fragment} {fragments : List Fragment}
    {conjuncts : List Predicate} {parts : List (List Predicate)} (reads : fragment.Reads [conjuncts])
    (others : List.Forall₂ (fun fragment part => Reads fragment [part]) fragments parts) :
    (join " OR " (fragment :: fragments)).Reads (conjuncts :: parts) := by
  induction others generalizing fragment conjuncts with
  | nil => simpa [join] using reads
  | cons next _ ih => exact reads.or (ih next)

/-- **A whole text is read as its alternatives.** -/
theorem Reads.read? {fragment : Fragment} {first : List Predicate}
    {alternatives : List (List Predicate)} (reads : fragment.Reads (first :: alternatives)) :
    Predicate.read? fragment.text fragment.params = some (.oneOf (first :: alternatives)) := by
  obtain ⟨lexemes, spells, run⟩ := reads
  have read : lex fragment.text.toList = some lexemes := by
    have whole := spells [] Boundary.nil
    rwa [List.append_nil, lex, Option.map_some, List.append_nil] at whole
  have ended := run .empty [] []
  rw [List.append_nil] at ended
  have inside : (Level.empty.extend (first :: alternatives)).alternatives =
      first :: alternatives := Level.alternatives_extend Level.empty first alternatives
  cases lexemes with
  | nil => cases ended
  | cons lexeme rest =>
    simp only [Predicate.read?, read, Option.bind_eq_bind, Option.bind_some, ended,
      Reading.finish?, inside]

end Fragment

end SqlCraft.Sql
