import Focal.Diagnostic.Terminal

/-!
# Options

The arguments after a command are options, which start with two hyphens, and at most one input.
Two hyphens alone end them; what follows is for the program.
-/

namespace Focal

open Diagnostic

/-- The options of a command. -/
structure Options where
  /-- The path of a file, or a source text. -/
  input : Option String
  /-- When diagnostics are coloured. -/
  color : ColorChoice
  /-- The name of the prelude entry to run against. -/
  receiver : Option String
  /-- The arguments of the program. -/
  arguments : List String
deriving Repr, DecidableEq

/-- Why arguments are not options. -/
inductive OptionError where
  | invalidColor (mode : String)
  | emptyReceiver
  | unknownOption (argument : String)
  | unexpectedArgument (argument : String)
deriving Repr, DecidableEq

/-- The message for why arguments are not options. -/
def OptionError.message : OptionError → String
  | .invalidColor mode =>
      "invalid color mode '" ++ mode ++ "' (expected auto, always or never)"
  | .emptyReceiver => "`--receiver=` needs a prelude name"
  | .unknownOption argument => "unknown option '" ++ argument ++ "'"
  | .unexpectedArgument argument => "unexpected argument '" ++ argument ++ "'"

/-- What follows `start` in a text that starts with it. -/
def after? (start text : String) : Option String :=
  if start.toList.isPrefixOf text.toList then
    some (String.ofList (text.toList.drop start.toList.length))
  else none

/-- The choice that a text names. -/
def Diagnostic.ColorChoice.parse? : String → Option ColorChoice
  | "auto" => some .auto
  | "always" => some .always
  | "never" => some .never
  | _ => none

namespace Options

/-- No options at all. -/
def none : Options :=
  { input := .none, color := .auto, receiver := .none, arguments := [] }

/-- Take one argument into the options. -/
def take (options : Options) (argument : String) : Except OptionError Options :=
  match after? "--color=" argument, after? "--receiver=" argument with
  | some mode, _ =>
      match ColorChoice.parse? mode with
      | some color => .ok { options with color }
      | .none => .error (.invalidColor mode)
  | .none, some name =>
      if name = "" then .error .emptyReceiver
      else .ok { options with receiver := some name }
  | .none, .none =>
      if (after? "--" argument).isSome then .error (.unknownOption argument)
      else if options.input.isNone then .ok { options with input := some argument }
      else .error (.unexpectedArgument argument)

/-- Take the arguments into the options, up to two hyphens alone. -/
def takeAll (options : Options) : List String → Except OptionError Options
  | [] => .ok options
  | argument :: rest =>
      if argument = "--" then .ok { options with arguments := rest }
      else
        match options.take argument with
        | .ok options => options.takeAll rest
        | .error error => .error error

/-- Read the arguments that follow a command. -/
def read (arguments : List String) : Except OptionError Options :=
  none.takeAll arguments

end Options

end Focal
