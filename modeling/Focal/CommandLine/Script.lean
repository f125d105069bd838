import Focal.CommandLine.Options
import Focal.CommandLine.Prelude
import Focal.Diagnostic.OfError
import Focal.Pipeline.Compile

/-!
# Scripts

A source text on the command line is checked, listed as a pipeline or evaluated against the
prelude.  Whatever goes wrong comes back as a diagnostic.
-/

namespace Focal

/-- A value of the command line. -/
abbrev PreludeValue := Value Prelude.Function

namespace Script

open Diagnostic

/-- The pipeline of a source, or the diagnostic of what is wrong with it. -/
def pipeline {ι : Type} (source : String) : Except Diagnostic (Pipeline ι (Value ι)) :=
  match compile source with
  | .ok pipeline => .ok pipeline
  | .error failure => .error (ofFailure failure)

/-- The number of steps of a source. -/
def check (source : String) : Except Diagnostic Nat := do
  let pipeline ← pipeline (ι := Prelude.Function) source
  return pipeline.length

/-- A number with blanks in front of it, up to a width. -/
def alignRight (width number : Nat) : String :=
  let digits := toString number
  blanks (width - digits.length) ++ digits

/-- The labels of a pipeline, one numbered line for each. -/
def numbered (labels : List String) : String :=
  let width := (toString labels.length).length
  String.join ((labels.zipIdx 1).map fun (label, number) =>
    alignRight width number ++ "  " ++ label ++ "\n")

/-- The labels of the steps of a source, one numbered line for each. -/
def list (source : String) : Except Diagnostic String := do
  let pipeline ← pipeline (ι := Prelude.Function) source
  return numbered pipeline.labels

/-- The prelude, or the entry of it that is named. -/
def select (depth : Nat) (root : PreludeValue) :
    Option String → Run String (Except Diagnostic PreludeValue)
  | none => return .ok root
  | some name => do
      match ← (Prelude.host.lookupValue depth root name).run with
      | .ok value => return .ok value
      | .error error =>
          return .error ((ofRunError error).addNote ("selected by `--receiver=" ++ name ++ "`"))

/-- Evaluate a source against the receiver that the options select.  The arguments of the program
are what the prelude gives; they do not take the place of the receiver. -/
def evaluate (depth : Nat) (source : String) (options : Options) :
    Run String (Except Diagnostic (List PreludeValue)) := do
  match pipeline source with
  | .error diagnostic => return .error diagnostic
  | .ok pipeline =>
      let root ← Prelude.build id options.arguments
      match ← select depth root options.receiver with
      | .error diagnostic => return .error diagnostic
      | .ok receiver =>
          match ← (Prelude.host.run depth pipeline receiver).run with
          | .ok results => return .ok results
          | .error error => return .error (ofRunError error)

end Script

end Focal
