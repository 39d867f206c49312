/-
**Digits and what rows of them denote.**

* `hexDigit?` — the value of one digit below sixteen;
* `inBase?` — the number that a row of digits of a base up to sixteen denotes.
-/

namespace SqlCraft.Numeric

/-- The value of a hexadecimal digit, in either case. -/
def hexDigit? (c : Char) : Option Nat :=
  if '0' ≤ c ∧ c ≤ '9' then some (c.toNat - '0'.toNat)
  else if 'a' ≤ c ∧ c ≤ 'f' then some (c.toNat - 'a'.toNat + 10)
  else if 'A' ≤ c ∧ c ≤ 'F' then some (c.toNat - 'A'.toNat + 10)
  else none

/-- The value of a digit of a base up to sixteen. -/
def digit? (base : Nat) (c : Char) : Option Nat :=
  (hexDigit? c).filter (· < base)

/-- The number that a row of digits denotes, behind digits that denote `value`. -/
def inBaseFrom? (base value : Nat) : List Char → Option Nat
  | [] => some value
  | c :: rest => do inBaseFrom? base (base * value + (← digit? base c)) rest

/-- The number that a row of digits denotes; there must be one. -/
def inBase? (base : Nat) (digits : List Char) : Option Nat :=
  if digits.isEmpty then none else inBaseFrom? base 0 digits

end SqlCraft.Numeric
