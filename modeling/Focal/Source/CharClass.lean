import Focal.Unicode.Alphabetic
import Focal.Unicode.Numeric

/-!
# Classes of bytes and characters

What the scanner tells apart: blanks and line terminators, which separate, digits, which start a
number, and the characters of names.
-/

namespace Focal.Source

/-! ## Bytes with a meaning of their own -/

abbrev byteTab : UInt8 := 0x09
abbrev byteLineFeed : UInt8 := 0x0A
abbrev byteReturn : UInt8 := 0x0D
abbrev byteSpace : UInt8 := 0x20
abbrev byteQuote : UInt8 := 0x22
abbrev byteOpenParen : UInt8 := 0x28
abbrev byteCloseParen : UInt8 := 0x29
abbrev byteComma : UInt8 := 0x2C
abbrev byteDot : UInt8 := 0x2E
abbrev byteSemicolon : UInt8 := 0x3B
abbrev byteBackslash : UInt8 := 0x5C
abbrev byteOpenBrace : UInt8 := 0x7B
abbrev byteCloseBrace : UInt8 := 0x7D

/-! ## Classes of bytes -/

/-- A space or a tab, which mean nothing outside a string. -/
def isBlankByte (byte : UInt8) : Bool :=
  byte == byteSpace || byte == byteTab

/-- A byte that ends a line. -/
def isLineEnd (byte : UInt8) : Bool :=
  byte == byteLineFeed || byte == byteReturn

/-- A decimal digit. -/
def isDigit (byte : UInt8) : Bool :=
  0x30 ≤ byte && byte ≤ 0x39

/-- A byte at which the scan of a string has to stop and look, other than a carriage return. -/
def isMarkButReturn (byte : UInt8) : Bool :=
  byte == byteQuote || byte == byteBackslash || byte == byteLineFeed

/-- The number of bytes of the character that starts with a byte. -/
def charWidth (byte : UInt8) : Nat :=
  if 0xC0 ≤ byte && byte ≤ 0xDF then 2
  else if 0xE0 ≤ byte && byte ≤ 0xEF then 3
  else if 0xF0 ≤ byte && byte ≤ 0xF7 then 4
  else 1

/-! ## Classes of characters -/

/-- A character that a name may start with: a letter, an underscore or a dollar sign. -/
def startsName (character : Char) : Bool :=
  Unicode.isAlphabetic character || character == '_' || character == '$'

/-- A character that a name may go on with: what it may start with, or a digit. -/
def continuesName (character : Char) : Bool :=
  Unicode.isAlphabetic character || Unicode.isNumeric character || character == '_' ||
    character == '$'

end Focal.Source
