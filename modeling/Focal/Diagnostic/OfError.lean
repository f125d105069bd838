import Focal.Diagnostic.Basic
import Focal.Source.ReadError
import Focal.Syntax.Failure
import Focal.Value.RunError

/-!
# Diagnostics of errors

Errors say only what went wrong and where.  The codes, labels, notes and suggestions by which a
user is told are chosen here.
-/

namespace Focal

open Syntax

/-- The code of an error in a source. -/
def Syntax.SyntaxErrorKind.code : SyntaxErrorKind → Diagnostic.Code
  | .unclosedString => .unclosedString
  | .unexpectedCharacter .. => .unexpectedCharacter
  | .integerTooLarge _ => .integerTooLarge
  | .unfinishedNumber => .unfinishedNumber
  | .unclosedDelimiter _ => .unclosedDelimiter
  | .missingName _ => .missingName

/-- The code of a runtime error. -/
def Cause.code : Cause → Diagnostic.Code
  | .lacks .. => .missingCapability
  | .unbound _ => .undefinedName
  | .host _ => .hostFailure

namespace Diagnostic

/-- What is said when a digit follows a point that a name should follow. -/
def pointNote : String :=
  "a number literal has at most one `.`; the next `.` starts a member access"

/-- The diagnostic of an error in a source. -/
def ofSyntaxError (error : SyntaxError) : Diagnostic :=
  let diagnostic := ofMessage error.kind.code error.message
  match error.kind with
  | .unclosedDelimiter opener =>
      let closer := if opener = '(' then ')' else '\x7d'
      (diagnostic.onLine error.line ("`" ++ opener.toString ++ "` opened here is never closed"))
        |>.addSuggestion ("add the missing `" ++ closer.toString ++ "`")
  | .unclosedString =>
      (diagnostic.onLine error.line "string starts here").addSuggestion "add a closing `\"`"
  | .unexpectedCharacter _ expected =>
      diagnostic.onLine error.line ("expected " ++ expected.text)
  | .integerTooLarge _ =>
      (diagnostic.onLine error.line "integer literal out of range")
        |>.addNote "integers are signed 64-bit"
  | .unfinishedNumber =>
      (diagnostic.onLine error.line "digit expected after `.`")
        |>.addSuggestion "write a fraction like `1.0`, or drop the `.`"
  | .missingName found =>
      let located := diagnostic.onLine error.line "member name expected"
      match found with
      | some character => if character.isDigit then located.addNote pointNote else located
      | none => located

/-- The diagnostic of a scan that ended early. -/
def ofFailure : Failure → Diagnostic
  | .invalid error => ofSyntaxError error
  | .fault _ => ofMessage .unreadableSource "the source cannot be scanned"

/-- The diagnostic of a runtime error. -/
def ofRunError (error : RunError) : Diagnostic :=
  let diagnostic := { ofMessage error.cause.code error.message with notes := error.notes }
  match error.cause with
  | .unbound _ =>
      diagnostic.addSuggestion "names without a `.` are looked up on the receiver"
  | _ => diagnostic

/-- The diagnostic of a source file that could not be read. -/
def ofReadError (path : String) (error : ReadError) : Diagnostic :=
  ofMessage .unreadableSource <|
    match error with
    | .notFound => "cannot find file '" ++ path ++ "'"
    | .permissionDenied => "permission denied reading '" ++ path ++ "'"
    | .invalidText => "'" ++ path ++ "' contains invalid UTF-8 data"
    | .other text => "error reading '" ++ path ++ "': " ++ text

end Diagnostic

end Focal
