/-
**Pieces of SQL text together with the values they bind.**

A fragment is a list of pieces: words of SQL, quoted names, and slots. A slot is written as a
placeholder and carries its value, so the placeholders of a fragment and its parameters can never be
out of step. `Fragment.text` and `Fragment.params` are the two views of a fragment, and both turn
appending into appending.
-/

import SqlCraft.Sql.Identifier
import SqlCraft.Value

namespace SqlCraft.Sql

/-- A piece of SQL. -/
inductive Piece where
  /-- Keywords, operators, numbers and punctuation. -/
  | word (text : String)
  /-- A quoted name. -/
  | identifier (name : String)
  /-- A placeholder and its value. -/
  | slot (value : Value)
deriving DecidableEq

/-- The text of a piece. -/
def Piece.text : Piece → String
  | .word text => text
  | .identifier name => quote name
  | .slot _ => "?"

/-- The value that a piece binds, if it is a slot. -/
def Piece.param? : Piece → Option Value
  | .slot value => some value
  | _ => none

/-- SQL text with its values. -/
abbrev Fragment := List Piece

/-- A column of a table. -/
structure ColumnName where
  table : String
  field : String
deriving DecidableEq, Repr

/-- The column in SQL: both names with a point between them. -/
def ColumnName.fragment (column : ColumnName) : Fragment :=
  [.identifier column.table, .word ".", .identifier column.field]

namespace Fragment

/-- The SQL text, with a placeholder for each slot. -/
def text (fragment : Fragment) : String := String.join (fragment.map Piece.text)

/-- The values of the slots, from left to right. -/
def params (fragment : Fragment) : List Value := fragment.filterMap Piece.param?

/-- Fragments with the same word between neighbours. -/
def join (separator : String) (fragments : List Fragment) : Fragment :=
  List.intercalate [.word separator] fragments

/-- A fragment between round brackets. -/
def parenthesized (fragment : Fragment) : Fragment := .word "(" :: fragment ++ [.word ")"]

/-- Names with commas between them. -/
def names (list : List String) : Fragment := join ", " (list.map fun name => [.identifier name])

@[simp] theorem params_append (left right : Fragment) :
    params (left ++ right) = params left ++ params right :=
  List.filterMap_append

end Fragment

end SqlCraft.Sql
