import Focal.Decimal.Binary

/-!
# The fewest digits that read back

Every decimal in the rounding interval of a double reads back as that double.  The interval
reaches half way to the two neighbours, its ends included when the mantissa is even.  `shortest`
walks through the decimal grids from coarse to fine and takes the first one with a point in the
interval; of the two grid points next to the value it takes the nearer one, and the larger one of
two that are equally near.
-/

namespace Focal.Decimal

/-- A positive rational with the ends of an interval around it, over one denominator. -/
structure Interval where
  low : Nat
  value : Nat
  high : Nat
  denominator : Nat
  closed : Bool

/-- The reals that round to `mantissa · 2^exponent`. -/
def Interval.ofBinary (mantissa : Nat) (exponent : Int) : Interval :=
  let narrow := mantissa = leadingBit ∧ lowestExponent < exponent
  let (factor, denominator) := scale 2 (exponent - 2) 1 1
  { low := (if narrow then 4 * mantissa - 1 else 4 * mantissa - 2) * factor
    value := 4 * mantissa * factor
    high := (4 * mantissa + 2) * factor
    denominator
    closed := mantissa % 2 = 0 }

/-- Whether `point / denominator` lies in the interval. -/
def Interval.holds (interval : Interval) (point : Nat) : Bool :=
  if interval.closed then interval.low ≤ point && point ≤ interval.high
  else interval.low < point && point < interval.high

/-- The interval measured in steps of `10^exponent`. -/
def Interval.inSteps (interval : Interval) (exponent : Int) : Interval :=
  let (factor, denominator) := scale 10 (-exponent) 1 interval.denominator
  { low := interval.low * factor
    value := interval.value * factor
    high := interval.high * factor
    denominator
    closed := interval.closed }

/-- Of the two whole numbers next to the value, the one in the interval; of two the nearer. -/
def Interval.wholePoint? (interval : Interval) : Option Nat :=
  let below := interval.value / interval.denominator
  let beyond := interval.value % interval.denominator
  let lower := interval.holds (below * interval.denominator)
  let upper := interval.holds ((below + 1) * interval.denominator)
  if lower && upper then
    some (if 2 * beyond < interval.denominator then below else below + 1)
  else if lower then some below
  else if upper then some (below + 1)
  else none

/-- The number of decimal digits of a natural number. -/
def digitCount (value : Nat) : Nat :=
  (Nat.toDigits 10 value).length

/-- The largest `e` with `10^e` at most the positive fraction. -/
def decimalExponent (numerator denominator : Nat) : Int :=
  if denominator ≤ numerator then digitCount (numerator / denominator) - 1
  else
    let places := digitCount (denominator / numerator) - 1
    if denominator ≤ numerator * Nat.pow 10 places then -places else -(places + 1)

/-- The first grid point in the interval, on grids of `count`, `count + 1`, … digits. -/
def Interval.firstPoint (interval : Interval) (leading : Int) : Nat → Nat → Nat × Int
  | 0, count => (interval.value, leading - count)
  | remaining + 1, count =>
      let step := leading - (count - 1 : Nat)
      match (interval.inSteps step).wholePoint? with
      | some point => (point, step)
      | none => interval.firstPoint leading remaining (count + 1)

/-- The most digits that any double needs. -/
def mostDigits : Nat := 17

/-- Digits and a power of ten that read back as the positive double `mantissa · 2^exponent`. -/
def shortest (mantissa : Nat) (exponent : Int) : Nat × Int :=
  let interval := Interval.ofBinary mantissa exponent
  interval.firstPoint (decimalExponent interval.value interval.denominator) mostDigits 1

end Focal.Decimal
