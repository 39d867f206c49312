/-
**Labels written in plain letters.**

A label with other characters than letters, digits and hyphens is written as its plain characters, a
hyphen, and the rest as a row of numbers. The numbers are written in digits to base 36, the least
first, and say where in the label the next character belongs and how much larger than the one
before its code point is: all pairs of a code point and a place are passed in order, and a number
says how many of them to skip.

* `Punycode.decode?` — the label.
-/

import SqlCraft.Text.Split

namespace SqlCraft.Url.Punycode

/-- The value of a digit: letters come first. -/
def digit? (c : Char) : Option Nat :=
  if 'a' ≤ c ∧ c ≤ 'z' then some (c.toNat - 'a'.toNat)
  else if 'A' ≤ c ∧ c ≤ 'Z' then some (c.toNat - 'A'.toNat)
  else if '0' ≤ c ∧ c ≤ '9' then some (c.toNat - '0'.toNat + 26)
  else none

/-- The value below which the digit at a place is the last one of its number. -/
def threshold (place bias : Nat) : Nat := max 1 (min 26 (place - bias))

/-- How often a number is divided by 35 until it is at most 455, counted in steps of 36, and what
remains of it. -/
def shrink (number steps : Nat) : Nat × Nat :=
  if 455 < number then shrink (number / 35) (steps + 36) else (number, steps)
termination_by number
decreasing_by exact Nat.div_lt_self (by omega) (by omega)

/-- The bias behind a number, for a label that is then of the given length. -/
def adaptedBias (number length : Nat) (isFirst : Bool) : Nat :=
  let scaled := if isFirst then number / 700 else number / 2
  let (rest, steps) := shrink (scaled + scaled / length) 0
  steps + 36 * rest / (rest + 38)

/-- A label that is being read. -/
structure Reading where
  /-- The label so far. -/
  label : List Char
  /-- The code point of the last character. -/
  code : Nat
  /-- The place of the next character, as far as its number is known. -/
  index : Nat
  /-- The place at which the number began to count. -/
  start : Nat
  bias : Nat
  /-- The place of the next digit, in steps of 36. -/
  place : Nat
  /-- What the next digit counts. -/
  weight : Nat

/-- A label of which the plain characters are known. -/
def Reading.ofPlain (label : List Char) : Reading :=
  { label, code := 0x80, index := 0, start := 0, bias := 72, place := 36, weight := 1 }

/-- The label with one more character, at the place that is now known. -/
def Reading.insert (reading : Reading) (index : Nat) : Option Reading :=
  let length := reading.label.length + 1
  let code := reading.code + index / length
  let place := index % length
  if code.isValidChar then
    some { label := reading.label.take place ++ Char.ofNat code :: reading.label.drop place
           code
           index := place + 1
           start := place + 1
           bias := adaptedBias (index - reading.start) length (reading.start = 0)
           place := 36
           weight := 1 }
  else none

/-- Reads a digit. Numbers of more than 32 bits are refused. -/
def Reading.next? (reading : Reading) (c : Char) : Option Reading := do
  let digit ← digit? c
  let index := reading.index + digit * reading.weight
  let limit := threshold reading.place reading.bias
  let weight := reading.weight * (36 - limit)
  if UInt32.size ≤ index then none
  else if digit < limit then reading.insert index
  else if UInt32.size ≤ weight then none
  else return { reading with index, weight, place := reading.place + 36 }

/-- The label that a text stands for. -/
def decode? (text : List Char) : Option (List Char) := do
  let (plain, digits) := match Text.splitLast '-' text with
    | some (first :: rest, digits) => (first :: rest, digits)
    | _ => ([], text)
  let reading ← digits.foldlM Reading.next? (Reading.ofPlain plain)
  if reading.place = 36 then return reading.label else none

end SqlCraft.Url.Punycode
