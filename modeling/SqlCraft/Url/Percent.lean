/-
**Percent escapes.**

A percent sign and two hexadecimal digits stand for a byte; every other character stands for its own
bytes, a percent sign without digits behind it too.

* `Percent.bytes` — the bytes of a text;
* `Percent.decoded?` — the text that these bytes are, if they are text.
-/

import SqlCraft.Numeric.Digit

namespace SqlCraft.Url.Percent

/-- The bytes of a character. -/
def charBytes (c : Char) : List UInt8 := (String.ofList [c]).toUTF8.toList

/-- The byte that two hexadecimal digits stand for. -/
def escapedByte? (high low : Char) : Option UInt8 := do
  return (16 * (← Numeric.hexDigit? high) + (← Numeric.hexDigit? low)).toUInt8

/-- The bytes of a text with percent escapes. -/
def bytes : List Char → List UInt8
  | '%' :: high :: low :: rest =>
    match escapedByte? high low with
    | some byte => byte :: bytes rest
    | none => charBytes '%' ++ bytes (high :: low :: rest)
  | c :: rest => charBytes c ++ bytes rest
  | [] => []

/-- The text that a text with percent escapes stands for. -/
def decoded? (text : List Char) : Option String :=
  String.fromUTF8? ⟨(bytes text).toArray⟩

end SqlCraft.Url.Percent
