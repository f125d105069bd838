/-!
# Codes of diagnostics

Every diagnostic has a code, an `E` and four digits.  The first digit tells the phase: `0` for
reading a program, `6` for running it, `9` for the command line.
-/

namespace Focal.Diagnostic

/-- What a diagnostic is about. -/
inductive Code where
  /-- A string that is never closed. -/
  | unclosedString
  /-- A character that cannot stand where it does. -/
  | unexpectedCharacter
  /-- An integer literal out of range. -/
  | integerTooLarge
  /-- A number that ends with a point. -/
  | unfinishedNumber
  /-- A parenthesis or brace that is never closed. -/
  | unclosedDelimiter
  /-- A point that no name follows. -/
  | missingName
  /-- A value that cannot be used as it is. -/
  | missingCapability
  /-- A name that is not bound. -/
  | undefinedName
  /-- A failure of the host. -/
  | hostFailure
  /-- A source file that cannot be read. -/
  | unreadableSource
deriving Repr, DecidableEq

/-- The phase in which a diagnostic arises. -/
inductive Phase where
  | compile
  | runtime
  | driver
deriving Repr, DecidableEq

namespace Code

/-- Every code, in ascending order. -/
def all : List Code :=
  [.unclosedString,
    .unexpectedCharacter,
    .integerTooLarge,
    .unfinishedNumber,
    .unclosedDelimiter,
    .missingName,
    .missingCapability,
    .undefinedName,
    .hostFailure,
    .unreadableSource]

/-- The text of a code. -/
def text : Code → String
  | .unclosedString => "E0001"
  | .unexpectedCharacter => "E0002"
  | .integerTooLarge => "E0003"
  | .unfinishedNumber => "E0004"
  | .unclosedDelimiter => "E0005"
  | .missingName => "E0006"
  | .missingCapability => "E6001"
  | .undefinedName => "E6002"
  | .hostFailure => "E6003"
  | .unreadableSource => "E9001"

/-- The phase that a code belongs to. -/
def phase : Code → Phase
  | .missingCapability | .undefinedName | .hostFailure => .runtime
  | .unreadableSource => .driver
  | _ => .compile

/-- The code that a text names, in capitals or not. -/
def parse? (text : String) : Option Code :=
  all.find? fun code => code.text = text.map Char.toUpper

end Code

end Focal.Diagnostic
