/-
**Statements and how their placeholders are bound.**

A `BoundText` has one value per placeholder. A `Statement` may instead bind a list of rows to one
`VALUES ?`; expanding it writes a tuple of placeholders per row there.

* `Statement.expand` — the bound text of a statement. The place for the tuples is the first
  `VALUES ?` of the text, wherever it stands.
-/

import SqlCraft.Sql.Fragment

namespace SqlCraft.Sql

/-- SQL text and the values of its placeholders, from left to right. -/
structure BoundText where
  sql : String
  params : List Value
deriving DecidableEq

/-- The text and the values of a fragment. -/
def Fragment.bound (fragment : Fragment) : BoundText := ⟨fragment.text, fragment.params⟩

/-- What the placeholders of a statement are bound to. -/
inductive Binding where
  /-- One value for each placeholder. -/
  | values (params : List Value)
  /-- Rows for the one placeholder behind `VALUES`. -/
  | rows (rows : List (List Value))
deriving DecidableEq

/-- A statement that writes data. -/
structure Statement where
  sql : String
  binding : Binding
deriving DecidableEq

/-- A text with the first occurrence of a pattern replaced, if there is one. -/
def replaceFirst (pattern replacement : List Char) : List Char → List Char
  | [] => []
  | c :: rest =>
    if pattern.isPrefixOf (c :: rest) then replacement ++ (c :: rest).drop pattern.length
    else c :: replaceFirst pattern replacement rest

/-- As many placeholders as there are values, with commas between them. -/
def marks (count : Nat) : String := String.intercalate ", " (List.replicate count "?")

/-- One tuple of placeholders for each row, with commas between them. -/
def tuples (rows : List (List Value)) : String :=
  String.intercalate ", " (rows.map fun row => "(" ++ marks row.length ++ ")")

namespace Statement

/-- A statement with one value for each placeholder of a fragment. -/
def ofFragment (fragment : Fragment) : Statement := ⟨fragment.text, .values fragment.params⟩

/-- Whether the statement binds rows. -/
def isBatch (statement : Statement) : Bool :=
  match statement.binding with
  | .rows _ => true
  | .values _ => false

/-- The number of data rows that the statement writes or matches by key. -/
def rowCount (statement : Statement) : Nat :=
  match statement.binding with
  | .rows rows => rows.length
  | .values _ => 1

/-- The same statement with one value for each placeholder. -/
def expand (statement : Statement) : BoundText :=
  match statement.binding with
  | .values params => ⟨statement.sql, params⟩
  | .rows rows =>
    ⟨String.ofList (replaceFirst "VALUES ?".toList ("VALUES " ++ tuples rows).toList
      statement.sql.toList), rows.flatten⟩

end Statement

end SqlCraft.Sql
