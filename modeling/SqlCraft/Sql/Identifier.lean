/-
**Quoted identifiers.**

A name stands between backticks, and a backtick inside it is written twice. So every name can be
written, whatever characters it has.
-/

namespace SqlCraft.Sql

/-- The characters of a name inside its quotes. -/
def doubleBackticks (name : List Char) : List Char :=
  name.flatMap fun c => if c = '\x60' then ['\x60', '\x60'] else [c]

/-- A name between backticks. -/
def quote (name : String) : String :=
  String.ofList ('\x60' :: doubleBackticks name.toList ++ ['\x60'])

/-- A column of a table, both names quoted, with a point between them. -/
def qualified (table field : String) : String := quote table ++ "." ++ quote field

/-- Quoted names with commas between them. -/
def quoteList (names : List String) : String := String.intercalate ", " (names.map quote)

end SqlCraft.Sql
