/-
**The canonical form of text.**

Text that looks the same may be written in several ways. Its canonical form takes characters
apart, brings marks of different classes into order, and puts together what can be put together.

* `ordered` — the order of the marks;
* `canonical` — the canonical form.
-/

import SqlCraft.Text.CombiningClass
import SqlCraft.Text.Decomposition

namespace SqlCraft.Text

/-! ### The order of marks -/

/-- A character put in front of a text, behind the marks of lower classes. -/
def place (c : Char) (text : List Char) : List Char :=
  let isLower (d : Char) : Bool := 0 < combiningClass d && combiningClass d < combiningClass c
  text.takeWhile isLower ++ c :: text.dropWhile isLower

/-- A text with its marks in order of their classes. -/
def ordered (text : List Char) : List Char := text.foldr place []

/-! ### Putting together -/

/-- The composed text from a character of class zero on, behind which the given marks, last first,
could not be put together with it. A mark that another one of its class keeps from the character
is not put together with it either. -/
def composedFrom (start : Char) (marks : List Char) : List Char → List Char
  | [] => start :: marks.reverse
  | c :: rest =>
    let isBlocked := marks.head?.any fun mark => combiningClass c ≤ combiningClass mark
    match if isBlocked then none else composed? start c with
    | some whole => composedFrom whole marks rest
    | none =>
      if combiningClass c = 0 then start :: marks.reverse ++ composedFrom c [] rest
      else composedFrom start (c :: marks) rest

/-- A text in order, put together. -/
def composed : List Char → List Char
  | [] => []
  | c :: rest => if combiningClass c = 0 then composedFrom c [] rest else c :: composed rest

/-- The canonical form of a text. -/
def canonical (text : List Char) : List Char := composed (ordered (text.flatMap parts))

end SqlCraft.Text
