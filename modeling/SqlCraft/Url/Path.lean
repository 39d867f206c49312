/-
**Paths.**

A path is split into segments at slashes. A segment of one point stands for the place it is at, and
one of two points leads back behind the segment before it; either may be written with percent
escapes. Nothing leads back behind the letter of a drive.

* `Path.resolved` — the segments that remain.
-/

import SqlCraft.Text.Split

namespace SqlCraft.Url.Path

/-- A point, which may be written with a percent escape, in front of a text. -/
def afterPoint? : List Char → Option (List Char)
  | '.' :: rest => some rest
  | '%' :: '2' :: 'e' :: rest => some rest
  | '%' :: '2' :: 'E' :: rest => some rest
  | _ => none

/-- Whether a segment stands for the place it is at. -/
def isHere (segment : List Char) : Bool := afterPoint? segment = some []

/-- Whether a segment leads back. -/
def isBack (segment : List Char) : Bool := (afterPoint? segment).bind afterPoint? = some []

/-- Whether a segment is the letter of a drive. -/
def isDrive (segment : List Char) : Bool :=
  match segment with
  | [letter, mark] => letter.isAlpha && (mark = ':' || mark = '|')
  | _ => false

/-- The segments without the last one, unless that is a drive; the last one comes first. -/
def back (kept : List (List Char)) : List (List Char) :=
  match kept with
  | [] => []
  | last :: others => if isDrive last then last :: others else others

/-- The segments that remain behind those which are kept so far, last first. -/
def resolvedFrom (kept : List (List Char)) : List (List Char) → List (List Char)
  | [] => kept.reverse
  | segment :: rest =>
    if isBack segment then resolvedFrom (back kept) rest
    else if isHere segment then resolvedFrom kept rest
    else resolvedFrom (segment :: kept) rest

/-- The segments that remain. -/
def resolved (segments : List (List Char)) : List (List Char) := resolvedFrom [] segments

end SqlCraft.Url.Path
