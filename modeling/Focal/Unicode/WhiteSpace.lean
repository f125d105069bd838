import Focal.Unicode.Ranges

/-!
# White space

The code points with the Unicode 17 property `White_Space`, as ascending ranges.
-/

namespace Focal.Unicode

/-- The code points that are white space, in ascending order. -/
def whiteSpace : Ranges :=
  [(0x9, 0xD), (0x20, 0x20), (0x85, 0x85), (0xA0, 0xA0), (0x1680, 0x1680), (0x2000, 0x200A),
    (0x2028, 0x2029), (0x202F, 0x202F), (0x205F, 0x205F), (0x3000, 0x3000)]

/-- A blank character of any width, line terminators included. -/
def isWhiteSpace (character : Char) : Bool :=
  whiteSpace.contains character.toNat

end Focal.Unicode
