/-
**Numeric addresses.**

* `isGroupedAddress` — eight groups of hexadecimal digits with colons between them, of which two
  colons may stand for one or more; the last two may be written as four bytes;
* `endsInNumber` and `isPointedAddress` — up to four numbers with points between them, in decimal,
  octal or hexadecimal notation. Each but the last is a byte; the last one fills the bytes that
  remain of four.
-/

import SqlCraft.Numeric.Digit
import SqlCraft.Text.Split

namespace SqlCraft.Url

open Numeric (hexDigit? inBase?)
open Text (splitAll)

/-! ### Groups of hexadecimal digits -/

/-- A number from 0 to 255 without leading zeros. -/
def isDecimalByte (digits : List Char) : Bool :=
  match digits with
  | ['0'] => true
  | '0' :: _ => false
  | digits => (inBase? 10 digits).any (· < UInt8.size)

/-- Four bytes with points between them. -/
def isFourBytes (text : List Char) : Bool :=
  let parts := splitAll (· = '.') text
  parts.length = 4 && parts.all isDecimalByte

/-- A group of one to four hexadecimal digits. -/
def isHexGroup (text : List Char) : Bool :=
  !text.isEmpty && text.length ≤ 4 && text.all fun c => (hexDigit? c).isSome

/-- The number of groups in a text of groups with colons between them; the last two may be written
as four bytes. -/
def groupCount? (bytesAtEnd : Bool) (text : List Char) : Option Nat :=
  if text.isEmpty then some 0
  else
    let parts := splitAll (· = ':') text
    match parts.getLast? with
    | none => some 0
    | some last =>
      if bytesAtEnd && isFourBytes last && parts.dropLast.all isHexGroup then
        some (parts.length + 1)
      else if parts.all isHexGroup then some parts.length
      else none

/-- The text before and behind the first two colons that follow each other. -/
def splitDoubleColon : List Char → Option (List Char × List Char)
  | ':' :: ':' :: rest => some ([], rest)
  | c :: rest => (splitDoubleColon rest).map fun (before, behind) => (c :: before, behind)
  | [] => none

/-- An address of eight groups, of which two colons may stand for one or more. -/
def isGroupedAddress (text : List Char) : Bool :=
  match splitDoubleColon text with
  | none => groupCount? true text = some 8
  | some (before, behind) =>
    match groupCount? false before, groupCount? true behind with
    | some first, some last => first + last ≤ 7
    | _, _ => false

/-! ### Numbers with points between them -/

/-- The number that a part of an address denotes. A zero in front marks octal digits, and an `x`
behind it hexadecimal ones, of which there may be none. -/
def addressPart? (text : List Char) : Option Nat :=
  match text with
  | ['0', 'x'] => some 0
  | '0' :: 'x' :: digits => inBase? 16 digits
  | '0' :: c :: digits => inBase? 8 (c :: digits)
  | digits => inBase? 10 digits

/-- The parts of a name, without an empty one at the end. -/
def withoutEmptyEnd (parts : List (List Char)) : List (List Char) :=
  if parts.getLast? = some [] then parts.dropLast else parts

/-- Whether the last part of a name is a number, so that the name has to be an address. -/
def endsInNumber (parts : List (List Char)) : Bool :=
  (withoutEmptyEnd parts).getLast?.any fun last =>
    (!last.isEmpty && last.all Char.isDigit) || (addressPart? last).isSome

/-- Whether the parts of a name are an address. -/
def isPointedAddress (parts : List (List Char)) : Bool :=
  match (withoutEmptyEnd parts).mapM addressPart? with
  | none => false
  | some numbers =>
    numbers.length ≤ 4 && numbers.dropLast.all (· < UInt8.size) &&
      numbers.getLast?.any (· < Nat.pow UInt8.size (5 - numbers.length))

end SqlCraft.Url
