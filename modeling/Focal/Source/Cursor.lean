import Focal.Source.PaddedText
import Focal.Source.CharClass

/-!
# A cursor over source text

A cursor is a position in a padded text together with the number of the line it is on.  Every
read and every move checks what it relies on and refuses with a `Fault` when that does not hold:
a byte outside the padded text, a position beyond the end of the text, a piece of text that does
not start and end between two characters, a line number larger than the text can have.
-/

namespace Focal.Source

/-- What a read or a move of a cursor was refused for. -/
inductive Fault where
  /-- A byte outside the padded text. -/
  | outsideBytes
  /-- A position beyond the end of the text. -/
  | pastEnd
  /-- A piece of text that ends before it starts. -/
  | reversed
  /-- A position inside a character. -/
  | offBoundary
  /-- A balanced span that does not start with its opening delimiter. -/
  | wrongOpener
  /-- A line number beyond the last one that the text can have. -/
  | pastLastLine
  /-- A loop whose turn leaves the cursor where it was. -/
  | stalled
  /-- A nested body that is no shorter than the text it stands in. -/
  | bodyNotShorter
deriving Repr, DecidableEq

/-- A position in a padded text, and its line. -/
structure Cursor where
  text : PaddedText
  /-- The number of bytes before the cursor. -/
  position : Nat
  /-- The number of the line at the cursor. -/
  line : Nat
  /-- The largest line number that the text can have. -/
  lastLine : Nat

namespace Cursor

/-- A cursor at the start of a text whose first byte is on `line`. -/
def atLine (text : String) (line lastLine : Nat) : Cursor :=
  { text := PaddedText.ofString text, position := 0, line, lastLine }

/-- The number of the last line of a text, if every byte of it ended a line. -/
def lastLineFrom (line : Nat) (text : String) : Nat :=
  line + text.utf8ByteSize

/-- The number of bytes of text from the cursor on. -/
def remaining (cursor : Cursor) : Nat :=
  cursor.text.length - cursor.position

/-! ## Reads -/

/-- The byte at a position of the padded text. -/
def byteAt (cursor : Cursor) (position : Nat) : Except Fault UInt8 :=
  match cursor.text.bytes[position]? with
  | some byte => .ok byte
  | none => .error .outsideBytes

/-- The byte at the cursor, zero at the end of the text. -/
def current (cursor : Cursor) : Except Fault UInt8 :=
  cursor.byteAt cursor.position

/-- The byte after the one at the cursor. -/
def nextByte (cursor : Cursor) : Except Fault UInt8 :=
  cursor.byteAt (cursor.position + 1)

/-- Whether the cursor is at the end of the text, and not at a zero inside it. -/
def isEnd (cursor : Cursor) : Except Fault Bool := do
  let byte ← cursor.current
  return byte == 0 && cursor.text.length ≤ cursor.position

/-- The text between two positions. -/
def slice (cursor : Cursor) (start stop : Nat) : Except Fault String :=
  if stop < start then .error .reversed
  else if cursor.text.length < stop then .error .pastEnd
  else if !cursor.text.isBoundary start || !cursor.text.isBoundary stop then
    .error .offBoundary
  else
    match String.fromUTF8? (cursor.text.bytes.extract start stop) with
    | some text => .ok text
    | none => .error .offBoundary

/-- The text from a position to the cursor. -/
def sliceFrom (cursor : Cursor) (start : Nat) : Except Fault String :=
  cursor.slice start cursor.position

/-- The character at the cursor, NUL at the end of the text. -/
def char (cursor : Cursor) : Except Fault Char := do
  if ← cursor.isEnd then return '\x00'
  let width := charWidth (← cursor.current)
  let stop := min (cursor.position + width) cursor.text.length
  let text ← cursor.slice cursor.position stop
  return text.toList.headD '\x00'

/-! ## Moves -/

/-- Step over bytes, none of which ends a line. -/
def skipBytes (cursor : Cursor) (count : Nat) : Except Fault Cursor :=
  if cursor.position + count ≤ cursor.text.length then
    .ok { cursor with position := cursor.position + count }
  else .error .pastEnd

/-- Step over one byte. -/
def skipByte (cursor : Cursor) : Except Fault Cursor :=
  cursor.skipBytes 1

/-- Step over one character. -/
def skipChar (cursor : Cursor) : Except Fault Cursor := do
  if !cursor.text.isBoundary cursor.position then throw .offBoundary
  cursor.skipBytes (charWidth (← cursor.current))

/-- Count a line terminator that the cursor has stepped over. -/
def nextLine (cursor : Cursor) : Except Fault Cursor :=
  if cursor.line < cursor.lastLine then .ok { cursor with line := cursor.line + 1 }
  else .error .pastLastLine

/-- Step over one line terminator, if there is one at the cursor. -/
def skipLineEnd (cursor : Cursor) : Except Fault (Bool × Cursor) := do
  let byte ← cursor.current
  if byte == byteLineFeed then
    let after ← cursor.skipByte
    return (true, ← after.nextLine)
  else if byte == byteReturn then
    let after ← cursor.skipByte
    if (← after.current) == byteLineFeed then
      let after ← after.skipByte
      return (true, ← after.nextLine)
    else return (true, ← after.nextLine)
  else return (false, cursor)

/-- Move to a position that a search has found and give the byte there, or move to the end of the
text when it has found none. -/
def moveTo (cursor : Cursor) : Option Nat → Except Fault (Option UInt8 × Cursor)
  | some position => do
      let after := { cursor with position }
      return (some (← after.current), after)
  | none => return (none, { cursor with position := cursor.text.length })

/-- Move to the next quote, backslash or line terminator and give that byte, or move to the end
of the text.  Carriage returns are searched for on their own, and the earlier of the two finds
counts. -/
def seekStringMark (cursor : Cursor) : Except Fault (Option UInt8 × Cursor) := do
  if cursor.text.length < cursor.position then throw .pastEnd
  let mark := cursor.text.find? isMarkButReturn cursor.position
  let carriageReturn := cursor.text.find? (· == byteReturn) cursor.position
  cursor.moveTo (Option.merge min mark carriageReturn)

end Cursor

end Focal.Source
