/-
**Reading SQL conditions.**

A condition is read from its lexemes from left to right. `AND` binds tighter than `OR`, so what
stands between two brackets, or in the whole text, is a list of alternatives, each a list of
conjuncts; a bracket opens a level of its own, and what it closes is one conjunct of the level
around it. Each placeholder takes the next parameter, and no parameter may be left over.

* `Predicate.read?` — the condition that a text and its parameters stand for;
* `Predicate.truth` — its value on a row.
-/

import SqlCraft.Filter.Clause
import SqlCraft.Proofs.Sql.Lexeme
import SqlCraft.Proofs.Sql.Truth

namespace SqlCraft.Sql

/-- A condition on columns. -/
inductive Predicate where
  /-- A test of one column. -/
  | test (column : ColumnName) (asked : Test)
  /-- Alternatives of which one must hold; all conjuncts of an alternative must hold. -/
  | oneOf (alternatives : List (List Predicate))

/-! ### Values on a row -/

/-- The value of a test of what a column holds. -/
def Relation.test (relation : Relation) (held : Value) : Test → Truth
  | .isNull => .ofBool held.isNull
  | .isNotNull => .ofBool !held.isNull
  | .compare operator value => relation.truth operator held value

namespace Predicate

variable (relation : Relation) (row : ColumnName → Value)

mutual

/-- The value of a condition on a row. -/
def truth : Predicate → Truth
  | .test column asked => relation.test (row column) asked
  | .oneOf alternatives => anyTruth alternatives

/-- The value of conjuncts. -/
def allTruth : List Predicate → Truth
  | [] => .holds
  | conjunct :: rest => .and conjunct.truth (allTruth rest)

/-- The value of alternatives. -/
def anyTruth : List (List Predicate) → Truth
  | [] => .fails
  | alternative :: rest => .or (allTruth alternative) (anyTruth rest)

end

theorem allTruth_eq (conjuncts : List Predicate) :
    allTruth relation row conjuncts = .all (conjuncts.map (truth relation row)) := by
  induction conjuncts with
  | nil => rfl
  | cons conjunct rest ih => rw [allTruth, ih]; rfl

theorem truth_oneOf_singleton (conjuncts : List Predicate) :
    truth relation row (.oneOf [conjuncts]) = allTruth relation row conjuncts := by
  rw [truth, anyTruth, anyTruth, Truth.or_fails]

theorem anyTruth_eq (alternatives : List (List Predicate)) :
    anyTruth relation row alternatives = .any (alternatives.map (allTruth relation row)) := by
  induction alternatives with
  | nil => rfl
  | cons alternative rest ih => rw [anyTruth, ih]; rfl

end Predicate

/-! ### The reader -/

/-- The operator with a sign. -/
def Operator.ofSign? (sign : String) : Option Operator :=
  [.equal, .not, .lt, .lte, .gt, .gte].find? fun operator => operator.sign == sign

/-- How far the reader is within an operand. -/
inductive Place where
  /-- An operand is expected. -/
  | start
  | table (name : String)
  | point (table : String)
  | column (column : ColumnName)
  | is (column : ColumnName)
  | isNot (column : ColumnName)
  | operator (column : ColumnName) (operator : Operator)
  /-- An operand is complete. -/
  | complete
deriving DecidableEq

/-- What was read between two brackets so far: alternatives, and the conjuncts of the one that is
being read. -/
structure Level where
  finished : List (List Predicate)
  conjuncts : List Predicate

namespace Level

/-- The level behind an opening bracket. -/
def empty : Level := ⟨[], []⟩

/-- All alternatives. -/
def alternatives (level : Level) : List (List Predicate) := level.finished ++ [level.conjuncts]

/-- The level with one more conjunct. -/
def operand (level : Level) (conjunct : Predicate) : Level :=
  ⟨level.finished, level.conjuncts ++ [conjunct]⟩

/-- The level behind an `OR`. -/
def next (level : Level) : Level := ⟨level.alternatives, []⟩

end Level

/-- The state of the reader: the levels around it, the innermost apart, and the parameters that were
not taken yet. -/
structure Reading where
  place : Place
  level : Level
  around : List Level
  params : List Value

namespace Reading

/-- Reads a complete operand. -/
def operand (reading : Reading) (conjunct : Predicate) : Reading :=
  { reading with place := .complete, level := reading.level.operand conjunct }

/-- Reads a lexeme. -/
def step (reading : Reading) (lexeme : Lexeme) : Option Reading :=
  match reading.place, lexeme with
  | .start, .name table => some { reading with place := .table table }
  | .start, .symbol "(" =>
    some { reading with level := .empty, around := reading.level :: reading.around }
  | .table table, .symbol "." => some { reading with place := .point table }
  | .point table, .name field => some { reading with place := .column ⟨table, field⟩ }
  | .column column, .symbol "IS" => some { reading with place := .is column }
  | .column column, .symbol sign =>
    (Operator.ofSign? sign).map fun operator => { reading with place := .operator column operator }
  | .is column, .symbol "NOT" => some { reading with place := .isNot column }
  | .is column, .symbol "NULL" => some (reading.operand (.test column .isNull))
  | .isNot column, .symbol "NULL" => some (reading.operand (.test column .isNotNull))
  | .operator column operator, .mark =>
    match reading.params with
    | value :: rest =>
      some { reading.operand (.test column (.compare operator value)) with params := rest }
    | [] => none
  | .complete, .symbol "AND" => some { reading with place := .start }
  | .complete, .symbol "OR" => some { reading with place := .start, level := reading.level.next }
  | .complete, .symbol ")" =>
    match reading.around with
    | level :: around =>
      some ({ reading with level := level, around := around }.operand
        (.oneOf reading.level.alternatives))
    | [] => none
  | _, _ => none

/-- What a whole text stands for when its end is reached. -/
def finish? (reading : Reading) : Option Predicate :=
  match reading with
  | ⟨.complete, level, [], []⟩ => some (.oneOf level.alternatives)
  | _ => none

end Reading

/-- The condition that a text and its parameters stand for; no text asks nothing. -/
def Predicate.read? (sql : String) (params : List Value) : Option Predicate := do
  match ← lex sql.toList, params with
  | [], [] => some (.oneOf [[]])
  | lexemes, params =>
    let reading ← lexemes.foldlM Reading.step ⟨.start, .empty, [], params⟩
    reading.finish?

/-- `AND` binds tighter than `OR`. -/
example : Predicate.read? "`t`.`a` = ? OR `t`.`b` < ? AND `t`.`c` IS NULL" [.int 1, .int 2] =
    some (.oneOf [[.test ⟨"t", "a"⟩ (.compare .equal (.int 1))],
      [.test ⟨"t", "b"⟩ (.compare .lt (.int 2)), .test ⟨"t", "c"⟩ .isNull]]) := by
  cbv

theorem Predicate.read?_empty : read? "" [] = some (.oneOf [[]]) := by
  show (lex []).bind _ = _
  rw [lex_nil]
  rfl

end SqlCraft.Sql
