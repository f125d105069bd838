import Focal.Eval.Evaluate
import Focal.Value.Text

/-!
# The prelude

The container that programs run against on the command line: a few functions of general use, and
bindings that describe the environment.  Only `print` has an effect, the text it writes.
-/

namespace Focal.Prelude

/-- The functions of the prelude. -/
inductive Function where
  /-- Write the arguments on a line. -/
  | print
  /-- Join the arguments into one string. -/
  | concat
  /-- Give the arguments back. -/
  | identity
  /-- Count the arguments. -/
  | count
  /-- The arguments of the program. -/
  | arguments (values : List String)
deriving Repr, DecidableEq

/-- The name of a function. -/
def Function.name : Function → String
  | .print => "print"
  | .concat => "concat"
  | .identity => "identity"
  | .count => "count"
  | .arguments _ => "args"

/-- The text that a call writes, and its results. -/
def Function.apply {ι : Type} : Function → List (Value ι) → String × List (Value ι)
  | .print, values => (String.intercalate " " (values.map Value.bare) ++ "\n", [.nothing])
  | .concat, values => ("", [.str (String.join (values.map Value.bare))])
  | .identity, values => ("", values)
  | .count, values => ("", [.int (Int64.ofNat values.length)])
  | .arguments texts, _ => ("", texts.map .str)

/-- The version that the prelude tells. -/
def version : String :=
  "0.1.0-alpha.1"

/-- The prelude for a program with arguments, where `handle` says how the host refers to the
functions. -/
def build {σ ι : Type} (handle : Function → ι) (arguments : List String) : Run σ (Value ι) := do
  let function (function : Function) : Run σ (String × Value ι) := do
    let identity ← Run.allocate
    return (function.name, .callable identity (.native function.name (handle function)))
  let functions ← [.print, .concat, .identity, .count, .arguments arguments].mapM function
  let environment := Bindings.ofList "env" [("name", .str "manta"), ("version", .str version)]
  let environment := Value.container (← Run.allocate) (.bindings environment)
  let entries := Bindings.ofList "prelude" (functions ++ [("env", environment)])
  return .container (← Run.allocate) (.bindings entries)

/-- The host that has the functions of the prelude alone.  Its state is the text written. -/
def host : Host String Function :=
  { call := fun function values =>
      let (text, results) := function.apply values
      .read fun written => .write (written ++ text) (.done (.ok results))
    find := fun _ _ => .done none
    mapStep := fun _ _ current => .done (.ok current)
    spliceStep := fun _ _ current => .done (.ok [current])
    modifyStep := fun _ context => .done (.ok (), context) }

end Focal.Prelude
