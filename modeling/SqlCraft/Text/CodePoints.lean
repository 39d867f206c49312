/-
**Tables of code points, written as text.**

An entry is a key and, behind a colon, code points in hexadecimal with points between them. Blanks
or line ends stand between entries.
-/

import SqlCraft.Numeric.Digit
import SqlCraft.Text.Split

namespace SqlCraft.Text.CodePoints

/-- The code points in a text of hexadecimal numbers with points between them. -/
def read (text : List Char) : List Nat :=
  (splitAll (· = '.') text).filterMap (Numeric.inBase? 16)

/-- The keys of a table, as they are written, and the code points that belong to them. -/
def entries (text : String) : List (List Char × List Nat) :=
  (splitAll (fun c => c = ' ' || c = '\n') text.toList).filterMap fun entry =>
    match breakAt (· = ':') entry with
    | (key, _ :: codes) => some (key, read codes)
    | (_, []) => none

/-- A table whose keys are code points. -/
def table (text : String) : List (Nat × List Nat) :=
  (entries text).filterMap fun (key, codes) =>
    (Numeric.inBase? 16 key).map fun code => (code, codes)

end SqlCraft.Text.CodePoints
