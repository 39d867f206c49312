/-
**Text quoted for a message.**

`quoted` puts a text between double quotes and escapes what a reader could not tell from the
quotes or could not see: the quote and the backslash, line ends, tabs, the zero character, and by
its code point every other character that is not visible.
-/

import SqlCraft.Text.Visible

namespace SqlCraft.Text

/-- One character inside quotes. -/
def quotedChar (c : Char) : List Char :=
  match c with
  | '"' => ['\\', '"']
  | '\\' => ['\\', '\\']
  | '\n' => ['\\', 'n']
  | '\r' => ['\\', 'r']
  | '\t' => ['\\', 't']
  | '\x00' => ['\\', '0']
  | c =>
    if isVisible c then [c]
    else '\\' :: 'u' :: '\x7b' :: Nat.toDigits 16 c.toNat ++ ['\x7d']

/-- A text between double quotes. -/
def quoted (text : String) : String :=
  String.ofList ('"' :: text.toList.flatMap quotedChar ++ ['"'])

end SqlCraft.Text
