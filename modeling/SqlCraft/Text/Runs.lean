/-
**Properties of characters that hold in runs of code points.**

A property is written as the code points at which it changes: it holds from the first to before the
second, from the third to before the fourth, and so on.
-/

namespace SqlCraft.Text

/-- Whether a character lies in a run: an odd number of changes stands at or below it. -/
def isWithin (changes : List Nat) (c : Char) : Bool :=
  (changes.takeWhile (· ≤ c.toNat)).length % 2 = 1

end SqlCraft.Text
