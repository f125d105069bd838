import Focal.Diagnostic.Basic
import Focal.Text.Lines
import Focal.Unicode.WhiteSpace

/-!
# Diagnostics on a terminal

A diagnostic is laid out as pieces of text, some of them with a style, and only then written, with
colours or without.  When the line it is about is known and the source has that line, the line is
shown with a caret under each column from its first to its last visible character.

```
error[E0005]: unbalanced parenthesis
 --> path:2
  |
2 |   foo(
  |   ^^^^ opened here
  |
  = help: close it
```
-/

namespace Focal.Diagnostic

/-! ## Styled text -/

/-- The styles of a terminal. -/
inductive Style where
  | error
  | help
  | bold
  | gutter
deriving Repr, DecidableEq

/-- What switches a style on. -/
def Style.start : Style → String
  | .error => "\x1b[1;31m"
  | .help => "\x1b[1;32m"
  | .bold => "\x1b[1m"
  | .gutter => "\x1b[1;34m"

/-- What switches every style off. -/
def Style.stop : String :=
  "\x1b[0m"

/-- A piece of text in one style, or in none. -/
structure Piece where
  style : Option Style
  text : String
deriving Repr, DecidableEq

/-- A piece of text without a style. -/
def plain (text : String) : Piece :=
  { style := none, text }

/-- A piece of text in a style. -/
def styled (style : Style) (text : String) : Piece :=
  { style := some style, text }

/-- Write a piece of text with its style, or without when there are no colours. -/
def Piece.write (colors : Bool) (piece : Piece) : String :=
  match piece.style with
  | some style => if colors then style.start ++ piece.text ++ Style.stop else piece.text
  | none => piece.text

/-- Write pieces of text one after another. -/
def write (colors : Bool) (pieces : List Piece) : String :=
  String.join (pieces.map (Piece.write colors))

/-- When to use colours. -/
inductive ColorChoice where
  /-- On a terminal. -/
  | auto
  | always
  | never
deriving Repr, DecidableEq, Inhabited

/-- Whether to use colours when the output is a terminal or not. -/
def ColorChoice.colors (choice : ColorChoice) (isTerminal : Bool) : Bool :=
  match choice with
  | .auto => isTerminal
  | .always => true
  | .never => false

/-! ## Layout -/

/-- What is known about the source that diagnostics are about. -/
structure Origin where
  /-- The text of the source. -/
  source : Option String
  /-- The name of the source. -/
  path : Option String
deriving Repr, DecidableEq

/-- The text of a line, counted from one, if the source has it. -/
def Origin.line? (origin : Origin) (line : Nat) : Option (List Char) :=
  match origin.source, line with
  | some source, line + 1 => (Text.lines source.toList)[line]?
  | _, _ => none

/-- The number of white space characters that a line starts with. -/
def indentation (line : List Char) : Nat :=
  (line.takeWhile Unicode.isWhiteSpace).length

/-- A line without the white space at its ends. -/
def trim (line : List Char) : List Char :=
  ((line.dropWhile Unicode.isWhiteSpace).reverse.dropWhile Unicode.isWhiteSpace).reverse

/-- Blanks. -/
def blanks (count : Nat) : String :=
  String.ofList (List.replicate count ' ')

/-- The carets under a line, with the label. -/
def marker (line : List Char) (label : Option String) : String :=
  String.ofList (List.replicate (max 1 (trim line).length) '^') ++
    match label with
    | some label => " " ++ label
    | none => ""

/-- Blanks as wide as a line number. -/
def gutter (line : Nat) : String :=
  blanks (toString line).length

/-- The line that a diagnostic is about, between two empty rows. -/
def snippet (line : Nat) (text : List Char) (label : Option String) : List Piece :=
  let margin := styled .gutter (gutter line ++ " |")
  [margin, plain "\n",
    styled .gutter (toString line ++ " |"), plain (" " ++ String.ofList text ++ "\n"),
    margin, plain (" " ++ blanks (indentation text)), styled .error (marker text label),
    plain "\n",
    margin, plain "\n"]

/-- Where a diagnostic is, and the line if the source has it. -/
def location (origin : Origin) (diagnostic : Diagnostic) (line : Nat) : List Piece :=
  let header := gutter line ++ "--> " ++ origin.path.getD "<input>" ++ ":" ++ toString line
  match origin.line? line with
  | some text => plain (header ++ "\n") :: snippet line text diagnostic.label
  | none =>
      match diagnostic.label with
      | some label => [plain header, plain ": ", styled .error label, plain "\n"]
      | none => [plain header, plain "\n"]

/-- A note or suggestion behind the margin. -/
def trailer (margin kind : String) (style : Style) (text : String) : List Piece :=
  [plain (margin ++ "= "), styled style kind, plain (": " ++ text ++ "\n")]

/-- A diagnostic and an empty line after it. -/
def layout (origin : Origin) (diagnostic : Diagnostic) : List Piece :=
  let place := match diagnostic.line with
    | some line => location origin diagnostic line
    | none => []
  let margin := match diagnostic.line with
    | some line => gutter line ++ " "
    | none => "  "
  [styled .error "error", styled .bold ("[" ++ diagnostic.code.text ++ "]"),
      plain (": " ++ diagnostic.message ++ "\n")] ++
    place ++
    diagnostic.notes.flatMap (trailer margin "note" .bold) ++
    diagnostic.suggestions.flatMap (trailer margin "help" .help) ++
    [plain "\n"]

/-- The closing line about a number of errors. -/
def summary : Nat → List Piece
  | 0 => []
  | 1 => [styled .error "error", plain ": aborting due to previous error\n"]
  | count =>
      [styled .error "error", plain (": aborting due to " ++ toString count ++
        " previous errors\n")]

end Focal.Diagnostic
