import Focal.CommandLine.Script
import Focal.CommandLine.Path
import Focal.Diagnostic.Explanation

/-!
# The command line

The arguments decide what is done.  Either the output is known at once, or one file has to be
read first; a `Request` says which.  So the whole behaviour is a function of the arguments and of
what files hold.
-/

namespace Focal

open Diagnostic

/-- What a run of the command line leaves. -/
structure Output where
  stdout : String
  stderr : String
  /-- Whether the exit status tells of success. -/
  success : Bool
deriving Repr, DecidableEq

/-- Success, with a text on standard output. -/
def Output.succeed (text : String) : Output :=
  { stdout := text, stderr := "", success := true }

/-- Failure, with a text on standard error. -/
def Output.fail (text : String) : Output :=
  { stdout := "", stderr := text, success := false }

/-- What is left to do for an output; there is none when calls nest too deeply. -/
inductive Request where
  /-- Nothing. -/
  | finish (output : Option Output)
  /-- A file has to be read. -/
  | read (path : String) (next : Except ReadError String → Option Output)

/-- The output of a request, where `files` says what files hold. -/
def Request.answer (files : String → Except ReadError String) : Request → Option Output
  | .finish output => output
  | .read path next => next (files path)

namespace CommandLine

/-- What a run of the command line depends on besides its arguments. -/
structure Setting where
  /-- How deeply calls may nest. -/
  depth : Nat
  /-- Whether standard error is a terminal. -/
  isTerminal : Bool

/-! ## Commands on a source -/

/-- A diagnostic as it is written at the end of a failing command. -/
def report (setting : Setting) (color : ColorChoice) (source path : String)
    (diagnostic : Diagnostic) : String :=
  let origin : Origin := { source := some source, path := some path }
  write (color.colors setting.isTerminal) (layout origin diagnostic ++ summary 1)

/-- Results as they are printed: those that are not nothing, each on a line. -/
def printLines (results : List PreludeValue) : String :=
  String.join ((results.filter fun value => !value.isNothing).map fun value =>
    value.bare ++ "\n")

/-- Evaluate a source and print the results. -/
def evaluateAs (setting : Setting) (options : Options) (path source : String) : Option Output := do
  let (result, world) ← Script.evaluate setting.depth source options { host := "", allocated := 0 }
  match result with
  | .ok results => return .succeed (world.host ++ printLines results)
  | .error diagnostic =>
      return { Output.fail (report setting options.color source path diagnostic) with
        stdout := world.host }

/-- Check a source and print the number of its steps. -/
def checkAs (setting : Setting) (options : Options) (path source : String) : Output :=
  match Script.check source with
  | .ok steps =>
      .succeed (path ++ ": ok (" ++ toString steps ++ " step" ++ (if steps = 1 then "" else "s") ++
        ")\n")
  | .error diagnostic => .fail (report setting options.color source path diagnostic)

/-- Print the pipeline of a source. -/
def listAs (setting : Setting) (options : Options) (path source : String) : Output :=
  match Script.list source with
  | .ok text => .succeed text
  | .error diagnostic => .fail (report setting options.color source path diagnostic)

/-- Read a file and do something with its text. -/
def onFile (setting : Setting) (options : Options) (path : String)
    (command : String → Option Output) : Request :=
  .read path fun
    | .ok source => command source
    | .error error => some (.fail (report setting options.color "" path (ofReadError path error)))

/-- Run a script. -/
def runFile (setting : Setting) (options : Options) (path : String) : Request :=
  onFile setting options path (evaluateAs setting options path)

/-! ## Texts -/

/-- The help text. -/
def usage : String := joinLines [
  "Manta expression language",
  "",
  "Usage: manta <command> [options]",
  "",
  "Commands:",
  "  run <file.manta>       Compile and evaluate a program",
  "  eval <source>          Compile and evaluate source text",
  "  check <file.manta>     Compile only, reporting errors",
  "  pipeline <file.manta>  List the steps a program compiles to",
  "  explain <code>         Explain an error code (e.g., E0005)",
  "  help                   Show this help message",
  "  version                Show version information",
  "",
  "Options:",
  "  --color=<mode>         Diagnostic colors: auto (default), always, never",
  "  --receiver=<name>      Run against a prelude entry instead of the prelude",
  "  -- <args>...           Program arguments, read with `args()`",
  "",
  "Prelude:",
  "  print(...)  concat(...)  identity(...)  count(...)  args()  env.name  env.version",
  "",
  "Logging:",
  "  RUST_LOG=manta_eval=trace manta eval '1, 2'",
  "",
  "Examples:",
  "  manta eval 'print(\"hello\", env.name)'",
  "  manta eval 'count(args())' -- a b c",
  "  manta run script.manta"]

/-- What is said about arguments that are not options. -/
def optionFailure (error : OptionError) : Output :=
  .fail ("error: " ++ error.message ++ "\n")

/-- What is said when a command lacks its input. -/
def missingInput (command what : String) : Output :=
  .fail (joinLines [
    "error: missing " ++ what,
    "Usage: manta " ++ command ++ " " ++ what ++ " [options]"])

/-- What is said about a command that does not exist. -/
def unknownCommand (command : String) : Output :=
  { stdout := usage, stderr := joinLines ["Unknown command: " ++ command, ""], success := false }

/-- The explanation of a code. -/
def explain (code : String) : Output :=
  match Code.parse? code with
  | some code => .succeed (code.explanation ++ "\n")
  | none =>
      .fail (joinLines [
        "Unknown error code: " ++ code,
        "",
        "Codes have the format EXXXX where X is a digit.",
        "Examples: E0001, E0005, E6002"])

/-! ## Choice of the command -/

/-- The commands that work on a source. -/
inductive SourceCommand where
  | run
  | eval
  | check
  | pipeline
deriving Repr, DecidableEq

/-- The word for a command. -/
def SourceCommand.name : SourceCommand → String
  | .run => "run"
  | .eval => "eval"
  | .check => "check"
  | .pipeline => "pipeline"

/-- What a command works on. -/
def SourceCommand.input : SourceCommand → String
  | .eval => "<source>"
  | _ => "<file.manta>"

/-- The command that a word stands for. -/
def SourceCommand.parse? (word : String) : Option SourceCommand :=
  [SourceCommand.run, .eval, .check, .pipeline].find? fun command => command.name = word

/-- Carry out a command on an input. -/
def SourceCommand.request (setting : Setting) (options : Options) (input : String) :
    SourceCommand → Request
  | .run => runFile setting options input
  | .eval => .finish (evaluateAs setting options "<eval>" input)
  | .check => onFile setting options input fun source => checkAs setting options input source
  | .pipeline => onFile setting options input fun source => listAs setting options input source

/-- Read the options of a command and carry it out. -/
def sourceRequest (setting : Setting) (command : SourceCommand) (arguments : List String) :
    Request :=
  match Options.read arguments with
  | .error error => .finish (some (optionFailure error))
  | .ok options =>
      match options.input with
      | some input => command.request setting options input
      | none => .finish (some (missingInput command.name command.input))

/-- What the arguments ask for. -/
def request (setting : Setting) : List String → Request
  | [] => .finish (some (.succeed usage))
  | word :: arguments =>
      match SourceCommand.parse? word with
      | some command => sourceRequest setting command arguments
      | none =>
          if word = "help" ∨ word = "--help" ∨ word = "-h" then .finish (some (.succeed usage))
          else if word = "version" ∨ word = "--version" ∨ word = "-v" then
            .finish (some (.succeed ("Manta " ++ Prelude.version ++ "\n")))
          else if word = "explain" ∨ word = "--explain" then
            match arguments with
            | code :: _ => .finish (some (explain code))
            | [] =>
                .finish (some (.fail (joinLines [
                  "Usage: manta explain <ERROR_CODE>",
                  "Example: manta explain E0005"])))
          else if Path.isScript word then
            match Options.read arguments with
            | .ok options => runFile setting options word
            | .error error => .finish (some (optionFailure error))
          else .finish (some (unknownCommand word))

end CommandLine

end Focal
