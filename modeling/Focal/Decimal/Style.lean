import Focal.Decimal.Shortest

/-!
# How a floating-point number is written

A number between `10^-4` and `10^16` is written positionally with at least one digit after the
point, any other one with an exponent.  The digits are the fewest that read back.

```
1        0.5        -0.0       1e16       1.5e-7       NaN      inf
⟶ 1.0   ⟶ 0.5    ⟶ -0.0    ⟶ 1e16    ⟶ 1.5e-7    ⟶ NaN   ⟶ inf
```
-/

namespace Focal.Decimal

/-- The choices in how floating-point numbers are written. -/
structure Style where
  /-- The least exponent of a leading digit that is written positionally. -/
  leastPositional : Int
  /-- The greatest exponent of a leading digit that is written positionally. -/
  greatestPositional : Int
  /-- What follows the point of a whole number. -/
  wholeFraction : List Char
  /-- What stands before the exponent. -/
  exponentMark : List Char
  /-- The text of what is not a number. -/
  nan : List Char
  /-- The text of an infinite number. -/
  infinite : List Char

/-- Positional from `10^-4` up to `10^16`, with `.0` after a whole number. -/
def standard : Style :=
  { leastPositional := -4
    greatestPositional := 15
    wholeFraction := ['0']
    exponentMark := ['e']
    nan := ['N', 'a', 'N']
    infinite := ['i', 'n', 'f'] }

/-- Remove the zeros at the end of a list of digits. -/
def stripZeros (digits : List Char) : List Char :=
  (digits.reverse.dropWhile (· = '0')).reverse

/-- Significant digits with the point after `places` of them, filled up with zeros. -/
def Style.positional (style : Style) (digits : List Char) (places : Int) : List Char :=
  if places ≤ 0 then
    ['0', '.'] ++ List.replicate (-places).toNat '0' ++ digits
  else
    let whole := digits.take places.toNat
    let fraction := digits.drop places.toNat
    whole ++ List.replicate (places.toNat - digits.length) '0' ++ ['.'] ++
      (if fraction.isEmpty then style.wholeFraction else fraction)

/-- Significant digits with the point after the first one and an exponent. -/
def Style.scientific (style : Style) (digits : List Char) (exponent : Int) : List Char :=
  let fraction := digits.drop 1
  digits.take 1 ++ (if fraction.isEmpty then [] else '.' :: fraction) ++
    style.exponentMark ++ (toString exponent).toList

/-- A positive number `digits · 10^exponent`. -/
def Style.positive (style : Style) (digits : Nat) (exponent : Int) : List Char :=
  let all := Nat.toDigits 10 digits
  let leading := exponent + all.length - 1
  if style.leastPositional ≤ leading ∧ leading ≤ style.greatestPositional then
    style.positional (stripZeros all) (leading + 1)
  else style.scientific (stripZeros all) leading

/-- The text of a double by its parts. -/
def Style.write (style : Style) : Binary → List Char
  | .nan => style.nan
  | .infinite negative => (if negative then ['-'] else []) ++ style.infinite
  | .finite negative mantissa exponent =>
      (if negative then ['-'] else []) ++
        if mantissa = 0 then ['0', '.'] ++ style.wholeFraction
        else
          let (digits, power) := shortest mantissa exponent
          style.positive digits power

/-- The text of a floating-point number. -/
def floatText (value : Float) : String :=
  String.ofList (standard.write (Binary.ofFloat value))

end Focal.Decimal
