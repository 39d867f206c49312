/-
**JSON text as it is read, to the point where it breaks off.**

A reader that goes through a text from left to right may find a value of the wrong kind before it
reaches the place where the text stops being JSON. So text is first read into a `Source`: the tree
of values up to the first break, which ends in `Source.broken` for what is due there.

* `Source.read` — the tree of a token list and the tokens behind it, in one pass with a stack of
  the arrays and objects that are still open;
* `Source.isSound` — no break anywhere, so a reader may pass over the value;
* `Source.toJson?` — the value itself, if every part of it denotes something.

An array or object inside 127 others is too deep to be read, but may be passed over.
-/

import SqlCraft.Json.Basic
import SqlCraft.Json.Token
import SqlCraft.SortedEntries

namespace SqlCraft.Json

open Numeric (Numeral Number)

/-- A JSON value as it is read. The key of a member is missing where its text denotes no string. -/
inductive Source where
  | broken
  | null
  | bool (value : Bool)
  | number (value : Numeral)
  | string (content : Option String)
  | array (items : List Source)
  | object (members : List (Option String × Source))
  | tooDeep (value : Source)

namespace Source

/-! ### Reading tokens -/

/-- An array or object that is still open: what it holds so far, last first, and in an object the
key of the value that is due. -/
inductive Frame where
  | array (items : List Source)
  | object (members : List (Option String × Source)) (key : Option String)

/-- The frame behind its next value; in an object the key is then still unknown. -/
def Frame.hold (value : Source) : Frame → Frame
  | .array items => .array (value :: items)
  | .object members key => .object ((key, value) :: members) none

/-- An array or object inside those that are still open. -/
def nested (frames : List Frame) (value : Source) : Source :=
  if (frames.drop 126).isEmpty then value else .tooDeep value

/-- The whole tree, when the text breaks off where a value is due: that value closes the innermost
frame, which closes the next. -/
def breakOff (value : Source) : List Frame → Source
  | [] => value
  | .array items :: frames =>
    breakOff (nested frames (.array (value :: items).reverse)) frames
  | .object members key :: frames =>
    breakOff (nested frames (.object ((key, value) :: members).reverse)) frames

/-- The value that a token alone makes up. -/
def ofScalar? : Token → Option Source
  | .null => some .null
  | .bool value => some (.bool value)
  | .number value => some (.number value)
  | .string content => some (.string content)
  | _ => none

mutual

/-- Reads on where a value is due. -/
def readValue (frames : List Frame) : List Token → Source × List Token
  | [] => (breakOff .broken frames, [])
  | .leftBracket :: .rightBracket :: rest =>
    readOn (nested frames (.array [])) frames rest
  | .leftBracket :: rest => readValue (.array [] :: frames) rest
  | .leftBrace :: .rightBrace :: rest =>
    readOn (nested frames (.object [])) frames rest
  | .leftBrace :: rest => readKey [] frames rest
  | token :: rest =>
    match ofScalar? token with
    | some value => readOn value frames rest
    | none => (breakOff .broken frames, [])

/-- Reads on behind a value. -/
def readOn (value : Source) (frames : List Frame) (tokens : List Token) : Source × List Token :=
  match frames with
  | [] => (value, tokens)
  | frame :: outer =>
    match frame, tokens with
    | .array items, .comma :: rest => readValue (.array (value :: items) :: outer) rest
    | .array items, .rightBracket :: rest =>
      readOn (nested outer (.array (value :: items).reverse)) outer rest
    | .object members key, .comma :: rest => readKey ((key, value) :: members) outer rest
    | .object members key, .rightBrace :: rest =>
      readOn (nested outer (.object ((key, value) :: members).reverse)) outer rest
    | frame, _ => (breakOff .broken (frame.hold value :: outer), [])
termination_by structural tokens

/-- Reads on where the key of an object is due; the members so far come last first. -/
def readKey (members : List (Option String × Source)) (frames : List Frame) :
    List Token → Source × List Token
  | .string key :: .colon :: rest => readValue (.object members key :: frames) rest
  | .string key :: _ => (breakOff .broken (.object members key :: frames), [])
  | _ => (breakOff .broken (.object members none :: frames), [])

end

/-- The first value of a token list, and the tokens behind it. -/
def read (tokens : List Token) : Source × List Token := readValue [] tokens

/-! ### Passing over a value -/

mutual

/-- Whether the text of the value does not break off. -/
def isSound : Source → Bool
  | .broken => false
  | .array items => areSound items
  | .object members => areSoundMembers members
  | .tooDeep value => value.isSound
  | _ => true

/-- Whether the text of no item breaks off. -/
def areSound : List Source → Bool
  | [] => true
  | item :: rest => item.isSound && areSound rest

/-- Whether the text of no member breaks off. -/
def areSoundMembers : List (Option String × Source) → Bool
  | [] => true
  | (_, value) :: rest => value.isSound && areSoundMembers rest

end

/-! ### The value itself -/

mutual

/-- The value of a source in which nothing is broken, too deep or out of range. Members are sorted
by key, and of equal keys the last counts. -/
def toJson? : Source → Option Json
  | .null => some .null
  | .bool value => some (.bool value)
  | .number value => value.number?.map fun
    | .integer value => .integer value
    | .double value => .double value
  | .string content => content.map .string
  | .array items => (itemsToJson? items).map .array
  | .object members => (membersToJson? members []).map .object
  | .broken => none
  | .tooDeep _ => none

/-- The values of the items of an array. -/
def itemsToJson? : List Source → Option (List Json)
  | [] => some []
  | item :: rest => do return (← item.toJson?) :: (← itemsToJson? rest)

/-- The members of an object, entered into those before them. -/
def membersToJson? :
    List (Option String × Source) → List (String × Json) → Option (List (String × Json))
  | [], members => some members
  | (some key, value) :: rest, members => do
    membersToJson? rest (SortedEntries.insert key (← value.toJson?) members)
  | _, _ => none

end

end Source

/-- The value that a whole text denotes. -/
def ofText? (text : String) : Option Json :=
  match Source.read (Token.scan text.toList) with
  | (source, []) => source.toJson?
  | _ => none

end SqlCraft.Json
