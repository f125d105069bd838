import Focal.Syntax.Lexeme
import Focal.Syntax.Tree
import Focal.Unicode.WhiteSpace

/-!
# Reading a program

A program is read in one pass over its text.  Between two tokens the scanner stands either at the
start of a value or behind one; the tree so far is kept in a `Draft`.  The body of a group, block
or call is cut out between its delimiters first and then read as a program of its own, which is
shorter than the text it stands in.
-/

namespace Focal.Syntax

open Focal.Source

/-! ## Unfinished programs -/

/-- The part of a program that has been read. -/
structure Draft where
  /-- The finished slots, the last one first. -/
  slots : List Slot
  /-- The finished segments of the current slot, the last one first. -/
  segments : List Segment
  /-- The term of the current segment, if it has started. -/
  term : Option Term

namespace Draft

/-- Nothing has been read. -/
def empty : Draft :=
  { slots := [], segments := [], term := none }

/-- The current slot, as it would be if it ended here. -/
def slot (draft : Draft) : Slot :=
  (Slot.last (Segment.ofTerm? draft.term)).behind draft.segments

/-- End the current segment. -/
def closeSegment (draft : Draft) : Draft :=
  { draft with segments := Segment.ofTerm? draft.term :: draft.segments, term := none }

/-- End the current slot. -/
def closeSlot (draft : Draft) : Draft :=
  { slots := draft.slot :: draft.slots, segments := [], term := none }

/-- The program, if it ends here. -/
def finish (draft : Draft) : Program :=
  (Program.last draft.slot).behind draft.slots

end Draft

/-! ## Bodies -/

/-- The two kinds of delimiters. -/
inductive Delimiter where
  | paren
  | brace
deriving Repr, DecidableEq

/-- The byte that opens a body. -/
def Delimiter.opener : Delimiter → UInt8
  | .paren => byteOpenParen
  | .brace => byteOpenBrace

/-- The byte that closes a body. -/
def Delimiter.closer : Delimiter → UInt8
  | .paren => byteCloseParen
  | .brace => byteCloseBrace

/-- The character that opens a body. -/
def Delimiter.openerChar : Delimiter → Char
  | .paren => '('
  | .brace => '\x7b'

/-- The character that closes a body. -/
def Delimiter.closerChar : Delimiter → Char
  | .paren => ')'
  | .brace => '\x7d'

/-- Whether a text holds nothing but white space. -/
def isBlank (text : String) : Bool :=
  text.toList.all Unicode.isWhiteSpace

/-- The body whose opening delimiter is at the cursor.  Lines inside it are counted from the line
of that delimiter. -/
def readBody (readProgram : String → Nat → Except Failure Program) (delimiter : Delimiter)
    (cursor : Cursor) : Except Failure (Body × Cursor) := do
  let (span, after) ← cursor.skipSpan delimiter.opener delimiter.closer
  match span with
  | none => failAt cursor.line (.unclosedDelimiter delimiter.openerChar)
  | some span =>
      let text ← after.slice span.start span.stop
      if isBlank text then return (.blank, after)
      else
        let program ← readProgram text cursor.line
        return (.program program, after)

/-! ## Terms -/

/-- The start of a term at the cursor. -/
def readPrimary (readProgram : String → Nat → Except Failure Program) (cursor : Cursor) :
    Except Failure (Term × Cursor) := do
  let byte ← cursor.current
  if byte == byteOpenParen then
    let (body, after) ← readBody readProgram .paren cursor
    return (.group body, after)
  else if byte == byteOpenBrace then
    let (body, after) ← readBody readProgram .brace cursor
    return (.block body, after)
  else if byte == byteQuote then
    let (text, after) ← readString cursor
    return (.str text, after)
  else if isDigit byte then
    let (number, after) ← readNumber cursor
    match number with
    | .int value => return (.int value, after)
    | .float value => return (.float value, after)
  else
    let character ← cursor.char
    if startsName character then
      let (name, after) ← readName cursor
      return (if name = "this" then .receiver else .name name, after)
    else failAt cursor.line (.unexpectedCharacter character .value)

/-- The name after the point of a member access; the cursor is behind the point. -/
def readMember (target : Term) (cursor : Cursor) : Except Failure (Term × Cursor) := do
  let start ← cursor.skipTrivia
  let ended ← start.isEnd
  let character ← start.char
  if ended then failAt start.line (.missingName none)
  else if startsName character then
    let (name, after) ← readName start
    return (.member target name, after)
  else failAt start.line (.missingName (some character))

/-- The call or member access at the cursor, applied to a term. -/
def readTrailer (readProgram : String → Nat → Except Failure Program) (target : Term)
    (cursor : Cursor) : Except Failure (Term × Cursor) := do
  let byte ← cursor.current
  if byte == byteOpenParen then
    let (body, after) ← readBody readProgram .paren cursor
    return (.call target body, after)
  else if byte == byteDot then readMember target (← cursor.skipByte)
  else failAt cursor.line (.unexpectedCharacter (← cursor.char) .trailer)

/-! ## Programs -/

/-- One separator, one primary or one trailer, and the trivia before it; or the end. -/
def programTurn (readProgram : String → Nat → Except Failure Program) (draft : Draft)
    (cursor : Cursor) : Except Failure (Turn Draft Program) := do
  let token ← cursor.skipTrivia
  if ← token.isEnd then return .stop draft.finish token
  else
    let byte ← token.current
    if byte == byteComma then return .next draft.closeSlot (← token.skipByte)
    else if byte == byteSemicolon then return .next draft.closeSegment (← token.skipByte)
    else
      let (term, after) ← match draft.term with
        | none => readPrimary readProgram token
        | some target => readTrailer readProgram target token
      return .next { draft with term := some term } after

/-- Read a text as a program.  The first byte of the text is on `line`, and no line of it has a
number above `lastLine`. -/
def Program.read (text : String) (line lastLine : Nat) : Except Failure Program := do
  let readShorter (body : String) (line : Nat) : Except Failure Program :=
    if body.utf8ByteSize < text.utf8ByteSize then Program.read body line lastLine
    else .error (.fault .bodyNotShorter)
  let (program, _) ← Cursor.loop (.fault .stalled) (programTurn readShorter) Draft.empty
    (Cursor.atLine text line lastLine)
  return program
termination_by text.utf8ByteSize

/-- Read a source text as a program. -/
def Program.ofSource (source : String) : Except Failure Program :=
  Program.read source 1 (Cursor.lastLineFrom 1 source)

end Focal.Syntax
