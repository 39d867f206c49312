/-
**Numerals and the numbers they denote.**

A numeral is a sign, whole digits, and an optional fraction and exponent. Without the last two it
denotes the integer, as long as that fits 64 bits; every other numeral denotes a double.

The double is computed from a 64-bit significand and one power of ten, so it may miss the nearest
double by a unit in the last place:

* digits enter the significand while it stays below `2 ^ 64`; whole digits that no longer fit only
  raise the power of ten, fraction digits that no longer fit are dropped (`Significand`);
* the significand is rounded to a double and multiplied or divided by the power of ten, in steps
  of at most 308 (`scaled?`).
-/

namespace SqlCraft.Numeric

/-- A number as it is written. -/
structure Numeral where
  /-- Whether it carries a minus sign. -/
  negative : Bool
  /-- Digits before the point, at least one. -/
  whole : List Nat
  /-- Digits after the point; empty without a point. -/
  fraction : List Nat
  /-- Sign (true for minus) and digits of the exponent. -/
  exponent : Option (Bool × List Nat)
deriving DecidableEq, Repr

/-- A number as it is understood: an integer of 64 bits, signed or unsigned, or a double. -/
inductive Number where
  | integer (value : Int)
  | double (value : Float)
deriving DecidableEq, Repr

/-- The value of a row of digits. -/
def digitsValue (digits : List Nat) : Nat :=
  digits.foldl (fun value digit => 10 * value + digit) 0

/-- A 64-bit significand and the power of ten that goes with it. -/
structure Significand where
  value : Nat
  power : Int
deriving DecidableEq, Repr

namespace Significand

/-- The significand with one more digit, if it still fits. -/
def append? (value digit : Nat) : Option Nat :=
  if 10 * value + digit < UInt64.size then some (10 * value + digit) else none

/-- Whole digits: from the first one that no longer fits, each raises the power of ten. -/
def ofWhole (value : Nat) : List Nat → Significand
  | [] => ⟨value, 0⟩
  | digit :: digits =>
    match append? value digit with
    | some longer => ofWhole longer digits
    | none => ⟨value, digits.length + 1⟩

/-- Fraction digits: each lowers the power of ten, until the first one that no longer fits. -/
def withFraction (significand : Significand) : List Nat → Significand
  | [] => significand
  | digit :: digits =>
    match append? significand.value digit with
    | some longer => withFraction ⟨longer, significand.power - 1⟩ digits
    | none => significand

end Significand

/-- A magnitude times a power of ten, in steps that the table of double powers of ten covers.
There is none beyond the largest double. -/
def scaled? (magnitude : Float) (power : Int) : Option Float :=
  if 308 < power then
    if magnitude == 0 then some magnitude else none
  else if 0 ≤ power then
    let product := magnitude * Float.ofScientific 1 false power.toNat
    if product.isInf then none else some product
  else if -308 ≤ power then
    some (magnitude / Float.ofScientific 1 false (-power).toNat)
  else if magnitude == 0 then some magnitude
  else scaled? (magnitude / Float.ofScientific 1 false 308) (power + 308)
termination_by (-power).toNat
decreasing_by omega

namespace Numeral

/-- The significand of all digits, before the exponent applies. -/
def significand (numeral : Numeral) : Significand :=
  (Significand.ofWhole 0 numeral.whole).withFraction numeral.fraction

/-- The magnitude as a double. An exponent beyond 31 bits makes any number too large or zero. -/
def magnitude? (numeral : Numeral) : Option Float :=
  let ⟨value, power⟩ := numeral.significand
  match numeral.exponent with
  | none => scaled? value.toUInt64.toFloat power
  | some (down, digits) =>
    let exponent := digitsValue digits
    if 0x80000000 ≤ exponent then
      if value ≠ 0 ∧ ¬ down then none else some 0
    else scaled? value.toUInt64.toFloat (if down then power - exponent else power + exponent)

/-- The number as a double. -/
def double? (numeral : Numeral) : Option Number :=
  numeral.magnitude?.map fun magnitude =>
    .double (if numeral.negative then -magnitude else magnitude)

/-- The number that a numeral denotes; there is none beyond the largest double. Zero with a minus
sign is a double, because no integer keeps the sign. -/
def number? (numeral : Numeral) : Option Number :=
  let value := digitsValue numeral.whole
  if numeral.fraction ≠ [] ∨ numeral.exponent ≠ none then numeral.double?
  else if ¬ numeral.negative ∧ value < UInt64.size then some (.integer value)
  else if numeral.negative ∧ value ≠ 0 ∧ value ≤ 0x8000000000000000 then some (.integer (-value))
  else numeral.double?

end Numeral

end SqlCraft.Numeric
