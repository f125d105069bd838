/-!
# Floating-point numbers as sign, mantissa and exponent

A finite double is `± m · 2^q` with `m < 2^53` and `q ≥ -1074`.  `Binary.ofFloat` reads the three
parts off the bits, and `nearestBits` goes the other way: of all doubles it finds the one nearest
to a fraction, where a tie goes to the even mantissa and what is too large becomes infinite.
-/

namespace Focal.Decimal

/-- A double by its parts. -/
inductive Binary where
  | nan
  | infinite (negative : Bool)
  | finite (negative : Bool) (mantissa : Nat) (exponent : Int)
deriving Repr, DecidableEq

/-- The number of bits after the leading bit of a mantissa. -/
def fractionBits : Nat := 52

/-- The value of the leading bit of a mantissa. -/
def leadingBit : Nat := 1 <<< fractionBits

/-- The exponent field of the numbers that are not finite. -/
def endField : Nat := 2047

/-- The exponent of the smallest doubles. -/
def lowestExponent : Int := -1074

/-- The parts of a double. -/
def Binary.ofFloat (value : Float) : Binary :=
  let bits := value.toBits.toNat
  let negative := bits.testBit 63
  let field := bits / leadingBit % (endField + 1)
  let fraction := bits % leadingBit
  if field = endField then
    if fraction = 0 then .infinite negative else .nan
  else if field = 0 then .finite negative fraction lowestExponent
  else .finite negative (leadingBit + fraction) (lowestExponent + (field - 1 : Nat))

/-- The quotient rounded to the nearest natural number, a tie to the even one. -/
def roundHalfEven (numerator denominator : Nat) : Nat :=
  let quotient := numerator / denominator
  let twice := 2 * (numerator % denominator)
  if twice < denominator then quotient
  else if denominator < twice then quotient + 1
  else quotient + quotient % 2

/-- A fraction multiplied by a power of `base`, as numerator and denominator. -/
def scale (base : Nat) (exponent : Int) (numerator denominator : Nat) : Nat × Nat :=
  (numerator * Nat.pow base exponent.toNat, denominator * Nat.pow base (-exponent).toNat)

/-- The largest `e` with `2^e` at most the positive fraction. -/
def binaryExponent (numerator denominator : Nat) : Int :=
  let estimate : Int := numerator.log2 - denominator.log2
  let (scaledNumerator, scaledDenominator) := scale 2 (-estimate) numerator denominator
  if scaledDenominator ≤ scaledNumerator then estimate else estimate - 1

/-- The bits of the double nearest to a fraction that is not negative. -/
def nearestBits (numerator denominator : Nat) : Nat :=
  if numerator = 0 then 0
  else
    let exponent := max (binaryExponent numerator denominator - fractionBits) lowestExponent
    let (scaledNumerator, scaledDenominator) := scale 2 (-exponent) numerator denominator
    let mantissa := roundHalfEven scaledNumerator scaledDenominator
    let bits := (exponent - lowestExponent).toNat * leadingBit + mantissa
    min bits (endField * leadingBit)

/-- The double nearest to `digits · 10^exponent`. -/
def nearest (digits : Nat) (exponent : Int) : Float :=
  let (numerator, denominator) := scale 10 exponent digits 1
  Float.ofBits (UInt64.ofNat (nearestBits numerator denominator))

end Focal.Decimal
