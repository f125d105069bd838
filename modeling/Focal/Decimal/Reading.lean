import Focal.Decimal.Binary

/-!
# Reading decimal numbers

A decimal number is a sign, digits with at most one point among them, and an exponent; there is
at least one digit, and sign, point and exponent may be left out.  The names of the infinite
numbers and of what is not a number are read without regard to case.  The value is the double
nearest to what is written.
-/

namespace Focal.Decimal

/-- The number that digits write in base ten. -/
def digitsValue (digits : List Char) : Nat :=
  digits.foldl (fun value digit => 10 * value + (digit.toNat - '0'.toNat)) 0

/-- An exponent beyond this bound, the digits counted in, makes a number zero or infinite. -/
def exponentBound : Nat := 400

/-- The double nearest to `digits · 10^exponent`, however far the exponent is from zero. -/
def nearestClamped (digits : List Char) (exponent : Int) : Float :=
  let bound : Int := exponentBound + digits.length
  nearest (digitsValue digits) (max (-bound) (min bound exponent))

/-- The value of an exponent: a sign that may be left out, and digits. -/
def readExponent? : List Char → Option Int
  | '-' :: digits =>
      if digits.isEmpty || !digits.all Char.isDigit then none else some (-digitsValue digits)
  | '+' :: digits =>
      if digits.isEmpty || !digits.all Char.isDigit then none else some (digitsValue digits)
  | digits =>
      if digits.isEmpty || !digits.all Char.isDigit then none else some (digitsValue digits)

/-- The value of a number without its sign. -/
def readUnsigned? (text : List Char) : Option Float :=
  let folded := text.map Char.toLower
  if folded = ['n', 'a', 'n'] then some (Float.ofBits 0x7FF8000000000000)
  else if folded = ['i', 'n', 'f'] ∨ folded = ['i', 'n', 'f', 'i', 'n', 'i', 't', 'y'] then
    some (Float.ofBits 0x7FF0000000000000)
  else
    let whole := text.takeWhile Char.isDigit
    let afterWhole := text.dropWhile Char.isDigit
    let (fraction, afterFraction) := match afterWhole with
      | '.' :: rest => (rest.takeWhile Char.isDigit, rest.dropWhile Char.isDigit)
      | rest => ([], rest)
    let exponent? := match afterFraction with
      | [] => some 0
      | mark :: rest => if mark = 'e' ∨ mark = 'E' then readExponent? rest else none
    if whole.isEmpty && fraction.isEmpty then none
    else exponent?.map fun exponent =>
      nearestClamped (whole ++ fraction) (exponent - fraction.length)

/-- The value of a decimal number. -/
def readFloat? (text : String) : Option Float :=
  match text.toList with
  | '-' :: rest => (readUnsigned? rest).map Float.neg
  | '+' :: rest => readUnsigned? rest
  | rest => readUnsigned? rest

end Focal.Decimal
