/-
**Splitting text.**

* `breakAt` — at the first character with a property;
* `splitLast` — at the last occurrence of a character;
* `splitAll` — at every occurrence of a separator.
-/

namespace SqlCraft.Text

/-- The text before the first character with a property, and the text from it on. -/
def breakAt (stops : Char → Bool) (text : List Char) : List Char × List Char :=
  (text.takeWhile (!stops ·), text.dropWhile (!stops ·))

/-- The text before and behind the last occurrence of a character. -/
def splitLast (separator : Char) (text : List Char) : Option (List Char × List Char) :=
  match breakAt (· = separator) text.reverse with
  | (_, []) => none
  | (behind, _ :: before) => some (before.reverse, behind.reverse)

/-- The pieces of a text between separators; there is one more than there are separators. -/
def splitAll (separates : Char → Bool) : List Char → List (List Char)
  | [] => [[]]
  | c :: rest =>
    if separates c then [] :: splitAll separates rest
    else match splitAll separates rest with
      | [] => [[c]]
      | piece :: pieces => (c :: piece) :: pieces

end SqlCraft.Text
