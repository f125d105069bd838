import Focal.Decimal.Reading
import Focal.Source.Loop
import Focal.Syntax.Failure

/-!
# Literals and names

Each scan starts on the first byte of what it reads and leaves the cursor on the first byte after
it.  None of them takes the separator or trailer that follows.
-/

namespace Focal.Syntax

open Focal.Source

/-! ## Strings -/

/-- The character that an escaped one stands for. -/
def escapeValue : Char → Char
  | 'n' => '\n'
  | 'r' => '\r'
  | 't' => '\t'
  | character => character

/-- The text that the content of a string stands for.  The flag says whether the first character is
escaped. -/
def unescape : Bool → List Char → List Char
  | _, [] => []
  | true, character :: rest => escapeValue character :: unescape false rest
  | false, character :: rest =>
      if character = '\\' then unescape true rest else character :: unescape false rest

/-- The part of a string up to and with the next delimiter, and what a backslash escapes.  At the
closing quote the text from `start` on is the content of the string. -/
def stringTurn (start : Nat) (_ : Unit) (cursor : Cursor) :
    Except Fault (Turn Unit (Option String)) := do
  let (delimiter, found) ← cursor.seekStringMark
  match delimiter with
  | none => return .stop none found
  | some byte =>
      if byte == byteQuote then
        let content ← found.sliceFrom start
        return .stop (some content) (← found.skipByte)
      else if byte == byteBackslash then
        let escaped ← found.skipByte
        if ← escaped.isEnd then return .stop none escaped
        else
          let (ended, after) ← escaped.skipLineEnd
          if ended then return .next () after
          else return .next () (← escaped.skipChar)
      else
        let (_, after) ← found.skipLineEnd
        return .next () after

/-- The content of a string as it stands, from behind the opening quote. -/
def scanString (cursor : Cursor) : Except Fault (Option String × Cursor) :=
  Cursor.loop .stalled (stringTurn cursor.position) () cursor

/-- The text that the string stands for whose opening quote is at the cursor. -/
def readString (cursor : Cursor) : Except Failure (String × Cursor) := do
  let first ← cursor.skipByte
  let (scanned, after) ← scanString first
  match scanned with
  | some content => return (String.ofList (unescape false content.toList), after)
  | none => failAt cursor.line .unclosedString

/-! ## Numbers -/

/-- The value of a number literal. -/
inductive Number where
  | int (value : Int64)
  | float (value : Float)

/-- Whether a number may end at the cursor: at the end, a blank, a line terminator, a comma or a
semicolon. -/
def numberMayEnd (cursor : Cursor) : Except Fault Bool := do
  let byte ← cursor.current
  let ended ← cursor.isEnd
  return ended || isBlankByte byte || isLineEnd byte || byte == byteComma ||
    byte == byteSemicolon

/-- The largest integer literal, one less than the 63rd power of two. -/
def largestInt : Nat := 9223372036854775807

/-- The integer that digits write. -/
def readInt (line : Nat) (digits : String) : Except Failure Number :=
  let value := Decimal.digitsValue digits.toList
  if value ≤ largestInt then .ok (.int (Int64.ofNat value))
  else failAt line (.integerTooLarge digits)

/-- The number that digits on both sides of a point write. -/
def readFraction (whole fraction : String) : Number :=
  .float (Decimal.nearest (Decimal.digitsValue (whole.toList ++ fraction.toList))
    (-fraction.length))

/-- The number whose first digit is at the cursor.  A point and a letter or underscore after the
digits are a member access on the integer; a point after a fraction ends the number too. -/
def readNumber (cursor : Cursor) : Except Failure (Number × Cursor) := do
  let line := cursor.line
  let point ← cursor.skipWhile isDigit
  let whole ← point.sliceFrom cursor.position
  let atPoint ← point.current
  if atPoint == byteDot then
    let beyond ← point.skipByte
    let next ← beyond.char
    if Unicode.isAlphabetic next || next == '_' then
      let number ← readInt line whole
      return (number, point)
    else if next == '.' then failAt line (.unexpectedCharacter next .digitOrMember)
    else if ← numberMayEnd beyond then failAt line .unfinishedNumber
    else if !next.isDigit then failAt line (.unexpectedCharacter next .digit)
    else
      let after ← beyond.skipWhile isDigit
      let fraction ← after.sliceFrom beyond.position
      let byte ← after.current
      let ended ← numberMayEnd after
      if byte == byteDot || ended then return (readFraction whole fraction, after)
      else failAt line (.unexpectedCharacter (← after.char) .digitOrSeparator)
  else if ← numberMayEnd point then
    let number ← readInt line whole
    return (number, point)
  else failAt line (.unexpectedCharacter (← point.char) .digitOrSeparator)

/-! ## Names -/

/-- One character of a name, or its end. -/
def nameTurn (_ : Unit) (cursor : Cursor) : Except Fault (Turn Unit Unit) := do
  if continuesName (← cursor.char) then return .next () (← cursor.skipChar)
  else return .stop () cursor

/-- Step over the characters that a name may go on with. -/
def skipName (cursor : Cursor) : Except Fault Cursor := do
  let (_, after) ← Cursor.loop .stalled nameTurn () cursor
  return after

/-- Whether a name may end at the cursor: at the end, a blank, a line terminator, a separator, a
point or a call. -/
def nameMayEnd (cursor : Cursor) : Except Fault Bool := do
  let byte ← cursor.current
  let ended ← cursor.isEnd
  return ended || isBlankByte byte || isLineEnd byte || byte == byteSemicolon ||
    byte == byteDot || byte == byteComma || byte == byteOpenParen

/-- The name whose first character is at the cursor. -/
def readName (cursor : Cursor) : Except Failure (String × Cursor) := do
  let second ← cursor.skipChar
  let after ← skipName second
  if ← nameMayEnd after then
    let name ← after.sliceFrom cursor.position
    return (name, after)
  else failAt after.line (.unexpectedCharacter (← after.char) .nameCharacter)

end Focal.Syntax
