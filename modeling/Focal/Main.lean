import Focal.CommandLine.Request

/-!
# The program

Reads the file that the arguments ask for, if any, and writes the output.
-/

namespace Focal

/-- How deeply calls may nest. -/
def callDepth : Nat := 1000000000

/-- The number of an error, which some calls report negated. -/
def errorNumber (code : UInt32) : Nat :=
  min code.toNat (0 - code).toNat

/-- What kept a file from being read. -/
def ReadError.ofSystem : IO.Error → ReadError
  | .noFileOrDirectory .. => .notFound
  | .permissionDenied .. => .permissionDenied
  | .inappropriateType _ code _ => if errorNumber code = 21 then .isDirectory else .notDirectory
  | .invalidArgument _ code details =>
      if errorNumber code = 36 then .nameTooLong else .system details (errorNumber code)
  | error => .other (toString error)

/-- The text of a file on the disk. -/
def readFile (path : String) : IO (Except ReadError String) := do
  try
    let content ← IO.FS.readBinFile path
    match String.fromUTF8? content with
    | some text => return .ok text
    | none => return .error .invalidText
  catch error => return .error (ReadError.ofSystem error)

/-- The output of a request, reading the file that it asks for. -/
def Request.perform : Request → IO (Option Output)
  | .finish output => return output
  | .read path next => return next (← readFile path)

end Focal

/-- Carry out what the arguments ask for. -/
def main (arguments : List String) : IO UInt32 := do
  let isTerminal ← (← IO.getStderr).isTty
  let setting : Focal.CommandLine.Setting := { depth := Focal.callDepth, isTerminal }
  match ← (Focal.CommandLine.request setting arguments).perform with
  | some output =>
      IO.print output.stdout
      IO.eprint output.stderr
      return if output.success then 0 else 1
  | none =>
      IO.eprintln "error: calls nest too deeply"
      return 1
