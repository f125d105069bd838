import Focal.Source.Cursor

/-!
# Scanning loops

Every loop of the scanner is `Cursor.loop` of one turn.  A turn ends the loop with a result, or
asks for another turn with a new state; then it must have brought the cursor nearer to the end of
the text, which is what bounds the loop.  A turn that has not is refused as stalled.
-/

namespace Focal.Source

/-- What one turn of a loop comes to. -/
inductive Turn (σ α : Type) where
  /-- Another turn from a new state. -/
  | next (state : σ) (cursor : Cursor)
  /-- The end of the loop. -/
  | stop (result : α) (cursor : Cursor)

namespace Cursor

/-- Repeat a turn until it stops or fails. -/
def loop {ε σ α : Type} (stalled : ε) (turn : σ → Cursor → Except ε (Turn σ α)) (state : σ)
    (cursor : Cursor) : Except ε (α × Cursor) :=
  match turn state cursor with
  | .error failure => .error failure
  | .ok (.stop result after) => .ok (result, after)
  | .ok (.next state after) =>
      if after.remaining < cursor.remaining then loop stalled turn state after
      else .error stalled
termination_by cursor.remaining

/-! ## Bytes of a class -/

/-- One byte of the class, or the end of the run. -/
def runTurn (test : UInt8 → Bool) (_ : Unit) (cursor : Cursor) : Except Fault (Turn Unit Unit) := do
  if test (← cursor.current) then return .next () (← cursor.skipByte)
  else return .stop () cursor

/-- Step over the bytes that pass a test. -/
def skipWhile (test : UInt8 → Bool) (cursor : Cursor) : Except Fault Cursor := do
  let (_, after) ← loop .stalled (runTurn test) () cursor
  return after

/-- Step over spaces and tabs. -/
def skipBlanks (cursor : Cursor) : Except Fault Cursor :=
  cursor.skipWhile isBlankByte

/-! ## Trivia -/

/-- Blanks up to and with one line terminator, or the blanks after the last one. -/
def triviaTurn (_ : Unit) (cursor : Cursor) : Except Fault (Turn Unit Unit) := do
  let spaced ← cursor.skipBlanks
  let (ended, after) ← spaced.skipLineEnd
  if ended then return .next () after
  else return .stop () after

/-- Step over spaces, tabs and line terminators. -/
def skipTrivia (cursor : Cursor) : Except Fault Cursor := do
  let (_, after) ← loop .stalled triviaTurn () cursor
  return after

/-! ## Strings as they stand -/

/-- The part of a string up to and with the next delimiter, and what a backslash escapes. -/
def skipQuotedTurn (_ : Unit) (cursor : Cursor) : Except Fault (Turn Unit Bool) := do
  let (delimiter, found) ← cursor.seekStringMark
  match delimiter with
  | none => return .stop false found
  | some byte =>
      if byte == byteQuote then return .stop true (← found.skipByte)
      else if byte == byteBackslash then
        let escaped ← found.skipByte
        if ← escaped.isEnd then return .stop false escaped
        else
          let (ended, after) ← escaped.skipLineEnd
          if ended then return .next () after
          else return .next () (← escaped.skipChar)
      else
        let (_, after) ← found.skipLineEnd
        return .next () after

/-- Step over a string whose opening quote is at the cursor, without reading its escapes; the
result says whether the string is closed. -/
def skipQuoted (cursor : Cursor) : Except Fault (Bool × Cursor) := do
  loop .stalled skipQuotedTurn () (← cursor.skipByte)

/-! ## Balanced spans -/

/-- The positions of a text between two delimiters: its first byte, and the closing delimiter. -/
structure Span where
  start : Nat
  stop : Nat
deriving Repr, DecidableEq

/-- One delimiter, one string, one line terminator or one other character of a span that starts
at `start`, inside `depth` more spans of its kind. -/
def spanTurn (opener closer : UInt8) (start : Nat) (depth : Nat) (cursor : Cursor) :
    Except Fault (Turn Nat (Option Span)) := do
  if ← cursor.isEnd then return .stop none cursor
  else
    let byte ← cursor.current
    if byte == closer then
      let after ← cursor.skipByte
      match depth with
      | 0 => return .stop (some ⟨start, cursor.position⟩) after
      | depth + 1 => return .next depth after
    else if byte == opener then return .next (depth + 1) (← cursor.skipByte)
    else if byte == byteQuote then
      let (closed, after) ← cursor.skipQuoted
      if closed then return .next depth after
      else return .stop none after
    else
      let (ended, after) ← cursor.skipLineEnd
      if ended then return .next depth after
      else return .next depth (← cursor.skipChar)

/-- Step over a span whose opening delimiter is at the cursor, to beyond the closing delimiter
that matches it.  Only these two delimiters are counted, and not inside strings; there is no span
when the text ends first. -/
def skipSpan (opener closer : UInt8) (cursor : Cursor) :
    Except Fault (Option Span × Cursor) := do
  if (← cursor.current) != opener then throw .wrongOpener
  if !cursor.text.isBoundary cursor.position then throw .offBoundary
  let first ← cursor.skipByte
  loop .stalled (spanTurn opener closer first.position) 0 first

end Cursor

end Focal.Source
