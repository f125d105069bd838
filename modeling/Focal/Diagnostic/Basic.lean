import Focal.Diagnostic.Code

/-!
# Diagnostics

A diagnostic is what a user is told about an error: its code and message, where it is known the
line and a label for it, and notes and suggestions.
-/

namespace Focal

/-- What a user is told about an error. -/
structure Diagnostic where
  code : Diagnostic.Code
  message : String
  /-- The number of the line it is about. -/
  line : Option Nat
  /-- What is written under that line. -/
  label : Option String
  notes : List String
  suggestions : List String
deriving Repr, DecidableEq

namespace Diagnostic

/-- A diagnostic without a place, notes or suggestions. -/
def ofMessage (code : Code) (message : String) : Diagnostic :=
  { code, message, line := none, label := none, notes := [], suggestions := [] }

/-- Place a diagnostic on a line, with a label for it. -/
def onLine (diagnostic : Diagnostic) (line : Nat) (label : String) : Diagnostic :=
  { diagnostic with line := some line, label := some label }

/-- Add a note behind the others. -/
def addNote (diagnostic : Diagnostic) (note : String) : Diagnostic :=
  { diagnostic with notes := diagnostic.notes ++ [note] }

/-- Add a suggestion behind the others. -/
def addSuggestion (diagnostic : Diagnostic) (suggestion : String) : Diagnostic :=
  { diagnostic with suggestions := diagnostic.suggestions ++ [suggestion] }

/-- A diagnostic in one line. -/
def text (diagnostic : Diagnostic) : String :=
  "error[" ++ diagnostic.code.text ++ "]: " ++ diagnostic.message ++
    match diagnostic.line with
    | some line => " (line " ++ toString line ++ ")"
    | none => ""

end Diagnostic

end Focal
