import Focal.Source.Cursor
import Focal.Text.Escaped

/-!
# Why a source is not a program

A `SyntaxError` says what is wrong with a source and on which line.  The scanner relies on a
cursor that refuses unsound moves; a refusal would be a `Failure` of its own kind.
-/

namespace Focal.Syntax

open Focal.Source

/-- What would have been right in the place of a character. -/
inductive Expectation where
  /-- The start of a slot or segment. -/
  | value
  /-- What may follow a value. -/
  | trailer
  /-- The next character of a name, or its end. -/
  | nameCharacter
  /-- The first digit of a fraction. -/
  | digit
  /-- What may follow the point after a whole number. -/
  | digitOrMember
  /-- What may follow the digits of a number. -/
  | digitOrSeparator
deriving Repr, DecidableEq

/-- The words for what would have been right. -/
def Expectation.text : Expectation → String
  | .value => "a value"
  | .trailer => "`(`, `.`, `,` or `;`"
  | .nameCharacter => "identifier character"
  | .digit => "digit"
  | .digitOrMember => "digit or member name after `.`"
  | .digitOrSeparator => "digit, `.` or separator"

/-- What is wrong with a source. -/
inductive SyntaxErrorKind where
  /-- A parenthesis or brace that is never closed. -/
  | unclosedDelimiter (opener : Char)
  /-- A string that is never closed. -/
  | unclosedString
  /-- A character that cannot stand where it does. -/
  | unexpectedCharacter (found : Char) (expected : Expectation)
  /-- An integer literal beyond 64 bits. -/
  | integerTooLarge (literal : String)
  /-- A point after a whole number with nothing to complete it. -/
  | unfinishedNumber
  /-- A point that no name follows; `none` stands for the end of the source. -/
  | missingName (found : Option Char)
deriving Repr, DecidableEq

/-- The message for what is wrong with a source. -/
def SyntaxErrorKind.message : SyntaxErrorKind → String
  | .unclosedDelimiter opener => "unbalanced `" ++ opener.toString ++ "`"
  | .unclosedString => "unterminated string literal"
  | .unexpectedCharacter found expected =>
      "invalid character " ++ Text.quotedChar found ++ ", expected " ++ expected.text
  | .integerTooLarge literal => "invalid number literal `" ++ literal ++ "`"
  | .unfinishedNumber => "incomplete number literal, expected digit after `.`"
  | .missingName found =>
      "expected identifier after `.`, found " ++
        match found with
        | some character => Text.quotedChar character
        | none => "end of input"

/-- What is wrong with a source, and the line it was found on. -/
structure SyntaxError where
  line : Nat
  kind : SyntaxErrorKind
deriving Repr, DecidableEq

/-- The message without the line. -/
def SyntaxError.message (error : SyntaxError) : String :=
  error.kind.message

/-- The message and the line. -/
def SyntaxError.text (error : SyntaxError) : String :=
  error.message ++ " at line " ++ toString error.line

/-- Why a scan ended early. -/
inductive Failure where
  /-- The cursor refused a read or a move. -/
  | fault (fault : Fault)
  /-- The source is not a program. -/
  | invalid (error : SyntaxError)
deriving Repr, DecidableEq

/-- A scan as part of one that can also find errors in the source. -/
def liftFault {α : Type} : Except Fault α → Except Failure α
  | .ok result => .ok result
  | .error fault => .error (.fault fault)

instance : MonadLift (Except Fault) (Except Failure) := ⟨liftFault⟩

/-- End a scan with an error on a line. -/
def failAt {α : Type} (line : Nat) (kind : SyntaxErrorKind) : Except Failure α :=
  .error (.invalid { line, kind })

end Focal.Syntax
