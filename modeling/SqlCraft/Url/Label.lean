/-
**Labels of domain names.**

A label is a piece of a name between points, written in plain letters or not. Once it is folded and
decoded, three rules apply:

* it does not begin with a mark (`Label.isSound`);
* characters that only say whether letters join stand where they change something (`joinersFit`);
* if a character of the name runs from right to left, no label mixes directions
  (`directionsFit`).
-/

import SqlCraft.Text.CombiningClass
import SqlCraft.Text.Direction
import SqlCraft.Text.Joining
import SqlCraft.Url.Folding
import SqlCraft.Url.Punycode

namespace SqlCraft.Url.Label

open Text (Direction)

/-! ### Decoding -/

/-- Plain characters that no name contains. -/
def isDenied (c : Char) : Bool :=
  c.toNat ≤ 0x20 || c.toNat = 0x7f || ['%', '#', '/', ':', '<', '>', '?', '@', '[', '\\', ']', '^',
    '|'].contains c

/-- Whether all characters are plain ones. -/
def isPlain (label : List Char) : Bool := label.all (·.toNat < 0x80)

/-- The longest text that is decoded. -/
def maxEncodedLength : Nat := 2000

/-- The longest label with other than plain characters. -/
def maxLength : Nat := 1000

/-- The label that the text behind the mark of encoded labels stands for. It must be folded, and may
not be plain: then it needs no code. -/
def decode? (text : List Char) : Option (List Char) := do
  if text.isEmpty || text.getLast? = some '-' || !isPlain text || maxEncodedLength < text.length then
    none
  else
    let label ← Punycode.decode? text
    if fold? label = some label && !label.any isDenied then return label else none

/-- The label that a folded text stands for. -/
def ofFolded? (text : List Char) : Option (List Char) :=
  match text with
  | 'x' :: 'n' :: '-' :: '-' :: encoded => decode? encoded
  | label => some label

/-! ### Joiners -/

/-- Says that letters do not join. -/
def nonJoiner : Char := '\u200c'

/-- Says that letters join. -/
def joiner : Char := '\u200d'

/-- Whether letters join around a place: the characters before it, last first, and those behind. -/
def joinsAcross (before behind : List Char) : Bool :=
  (before.dropWhile Text.isJoinTransparent).head?.any Text.joinsForward &&
    (behind.dropWhile Text.isJoinTransparent).head?.any Text.joinsBackward

/-- Whether each joiner and non-joiner stands behind a letter without a vowel, or a non-joiner
between letters that would join; `before` holds the characters before the text, last first. -/
def joinersFit (before : List Char) : List Char → Bool
  | [] => true
  | c :: rest =>
    let fits :=
      if c = joiner || c = nonJoiner then
        before.head?.any fun previous =>
          Text.combiningClass previous = Text.viramaClass ||
            (c = nonJoiner && joinsAcross before rest)
      else true
    fits && joinersFit (c :: before) rest

/-! ### Directions -/

/-- Whether a character makes the directions of the labels matter. -/
def isDirected (c : Char) : Bool :=
  [Direction.rightToLeft, .arabicNumber].contains (Direction.ofChar c)

/-- Whether directions start, go on and end as they may. Marks at the end do not count. -/
def mayFollow (middle last : List Direction) (directions : List Direction) : Bool :=
  match directions.reverse.dropWhile (· = .nonspacing) with
  | [] => true
  | final :: others => last.contains final && others.all middle.contains

/-- Whether a label keeps to the direction that its first character gives. -/
def directionsFit (label : List Char) : Bool :=
  match label.map Direction.ofChar with
  | [] => true
  | .leftToRight :: rest =>
    mayFollow [.leftToRight, .europeanNumber, .neutral, .nonspacing]
      [.leftToRight, .europeanNumber] rest
  | .rightToLeft :: rest =>
    mayFollow [.rightToLeft, .arabicNumber, .europeanNumber, .neutral, .nonspacing]
      [.rightToLeft, .arabicNumber, .europeanNumber] rest &&
      !(rest.contains .arabicNumber && rest.contains .europeanNumber)
  | _ => false

/-! ### All rules but that on directions -/

/-- Whether a label is plain, or short enough, begins with no mark and has no misplaced joiner. -/
def isSound (label : List Char) : Bool :=
  isPlain label ||
    (label.length ≤ maxLength && !label.head?.any Text.isMark && joinersFit [] label)

end SqlCraft.Url.Label
