/-
**The shortest decimal of a binary float.**

A positive finite double is `mantissa · 2 ^ exponent`. Every real number of the interval around it
reads back as that double, so its text needs only the digits of one decimal inside the interval.
The multiples of `10 ^ k` form a grid; the coarsest grid with a point in the interval gives the
fewest digits, and of that grid the point nearest to the double is taken.

* `Dyadic.interval` — the reals that round to a double, in quarters of its last place;
* `Dyadic.nearest?` — the nearest point of one grid, if it lies in the interval;
* `Dyadic.shortest` — the point of the coarsest grid that has one.

All arithmetic is on natural numbers, hence exact.
-/

namespace SqlCraft.Numeric

/-- A decimal number `digits · 10 ^ exponent`. -/
structure Decimal where
  digits : Nat
  exponent : Int
deriving DecidableEq, Repr

/-- Which of two equally near decimals is taken: the larger one or the one with an even last
digit. -/
inductive Tie where
  | up
  | even
deriving DecidableEq, Repr

/-- A binary number `mantissa · 2 ^ exponent`. -/
structure Dyadic where
  mantissa : Nat
  exponent : Int
deriving DecidableEq, Repr

namespace Dyadic

/-- The weight of the first bit of a double that is not subnormal, in units of its last place. It is
not stored. -/
def hiddenBit : Nat := 0x10000000000000

/-- The magnitude of a finite double, read off its bits: the hidden bit is added unless the number
is subnormal. -/
def ofFloat (value : Float) : Dyadic :=
  let magnitude := value.toBits.toNat % 0x8000000000000000
  let fraction := magnitude % hiddenBit
  let biased : Nat := magnitude / hiddenBit
  if biased = 0 then ⟨fraction, -1074⟩ else ⟨fraction + hiddenBit, Int.ofNat biased - 1075⟩

/-- The ends of the interval of reals that round to this double, in quarters of its last place.
Below a power of two the neighbours stand at half the distance. -/
def interval (number : Dyadic) : Nat × Nat :=
  let below := if number.mantissa = hiddenBit ∧ number.exponent ≠ -1074 then 1 else 2
  (4 * number.mantissa - below, 4 * number.mantissa + 2)

/-- Weights that compare `point · 10 ^ k` with `quarters · 2 ^ (exponent - 2)` by cross
multiplication: the first is for grid points, the second for quarters. -/
def weights (number : Dyadic) (k : Int) : Nat × Nat :=
  let two := number.exponent - 2
  (Nat.pow 10 k.toNat * Nat.pow 2 (-two).toNat, Nat.pow 2 two.toNat * Nat.pow 10 (-k).toNat)

/-- Whether a grid point lies in the interval; its ends count for an even mantissa. -/
def covers (number : Dyadic) (k : Int) (point : Nat) : Bool :=
  let (low, high) := number.interval
  let (unit, quarter) := number.weights k
  if number.mantissa % 2 = 0 then
    low * quarter ≤ point * unit && point * unit ≤ high * quarter
  else
    low * quarter < point * unit && point * unit < high * quarter

/-- The point of the grid of `10 ^ k` nearest to the number, if one of its two neighbours lies in
the interval. -/
def nearest? (number : Dyadic) (tie : Tie) (k : Int) : Option Nat :=
  let (unit, quarter) := number.weights k
  let exact := 4 * number.mantissa * quarter
  let floor := exact / unit
  match number.covers k floor, number.covers k (floor + 1) with
  | true, true =>
    let above := 2 * (exact - floor * unit)
    if above < unit then some floor
    else if unit < above then some (floor + 1)
    else match tie with
      | .up => some (floor + 1)
      | .even => some (floor + floor % 2)
  | true, false => some floor
  | false, true => some (floor + 1)
  | false, false => none

/-- The search through ever finer grids, `steps` of them from that of `10 ^ k` on. -/
def search (number : Dyadic) (tie : Tie) : (steps : Nat) → (k : Int) → Decimal
  | 0, k => ⟨0, k⟩
  | steps + 1, k =>
    match number.nearest? tie k with
    | some point => ⟨point, k⟩
    | none => search number tie steps (k - 1)

/-- The shortest decimal inside the interval of a positive double. No double reaches `10 ^ 309`,
and the grid of `10 ^ (-342)` is finer than every interval. -/
def shortest (number : Dyadic) (tie : Tie) : Decimal :=
  number.search tie 652 309

end Dyadic

end SqlCraft.Numeric
