/-
**Decimal text of a float.**

The digits are those of the shortest decimal that reads back; a `FloatStyle` decides how they are
laid out. Two styles are in use.

* `FloatStyle.sql` — positional throughout, whole numbers without a point;
* `FloatStyle.json` — positional for decimal exponents from -5 to 15, whole numbers with `.0`,
  otherwise one digit before the point and a signed exponent.
-/

import SqlCraft.Numeric.Shortest

namespace SqlCraft.Numeric

/-- The decisions of one number format. -/
structure FloatStyle where
  /-- Which of two equally near shortest decimals is written. -/
  tie : Tie
  /-- The decimal exponents of the leading digit that are written without an exponent. -/
  positional : Int → Bool
  /-- The ending of a whole number in positional form. -/
  wholeEnding : String

namespace FloatStyle

/-- Numbers in SQL text: never an exponent, and no point after a whole number. -/
def sql : FloatStyle := ⟨.up, fun _ => true, ""⟩

/-- Numbers in JSON text. -/
def json : FloatStyle := ⟨.even, fun exponent => -5 ≤ exponent && exponent ≤ 15, ".0"⟩

/-- A row of zeros. -/
def zeros (count : Nat) : String := String.ofList (List.replicate count '0')

/-- Digits in positional form: padded with zeros on the right, split by the point, or padded on
the left, according to where the point falls. -/
def positionalText (style : FloatStyle) (digits : String) (exponent : Int) : String :=
  let point : Int := digits.length + exponent
  if 0 ≤ exponent then digits ++ zeros exponent.toNat ++ style.wholeEnding
  else if 0 < point then
    String.ofList (digits.toList.take point.toNat) ++ "." ++
      String.ofList (digits.toList.drop point.toNat)
  else "0." ++ zeros (-point).toNat ++ digits

/-- Digits in exponent form: a point after the first digit if more follow, and a sign on the
exponent of that digit. -/
def exponentText (digits : String) (leading : Int) : String :=
  let first := String.ofList (digits.toList.take 1)
  let others := digits.toList.drop 1
  let point := if others.isEmpty then "" else "." ++ String.ofList others
  let sign := if leading < 0 then "-" else "+"
  first ++ point ++ "e" ++ sign ++ toString leading.natAbs

/-- Text of a positive finite double. -/
def magnitudeText (style : FloatStyle) (number : Dyadic) : String :=
  let decimal := number.shortest style.tie
  let written := (toString decimal.digits).toList
  let digits := String.ofList (written.reverse.dropWhile (· = '0')).reverse
  let exponent := decimal.exponent + (written.length - digits.length : Nat)
  let leading := exponent + digits.length - 1
  if style.positional leading then style.positionalText digits exponent
  else exponentText digits leading

/-- Text of any double. The sign of a zero is kept. -/
def text (style : FloatStyle) (value : Float) : String :=
  if value.isNaN then "NaN" else
  let sign := if value.toBits.toNat < 0x8000000000000000 then "" else "-"
  if value.isInf then sign ++ "inf"
  else if value == 0 then sign ++ "0" ++ style.wholeEnding
  else sign ++ style.magnitudeText (.ofFloat value)

end FloatStyle

end SqlCraft.Numeric
