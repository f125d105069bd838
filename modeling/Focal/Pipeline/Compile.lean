import Focal.Decimal.Style
import Focal.Pipeline.Step
import Focal.Syntax.Parsing
import Focal.Value.Basic

/-!
# From trees to pipelines

Every name, literal, group, block, member and call becomes one step, in the order of the source.
The receiver needs none, since a slot starts with it.  A semicolon becomes a reset and the end of
a slot a commit; where a value is missing before a commit, nothing is put in its place.  A last
slot without any token leaves no trace.
-/

namespace Focal

variable {ι : Type}

/-- The step that puts a fixed nothing in the place of the current value. -/
def Step.nothing (label : String) : Step ι (Value ι) :=
  .replace label .nothing

namespace Syntax

mutual

/-- The steps of a primary and its trailers. -/
def Term.steps : Term → Pipeline ι (Value ι)
  | .receiver => []
  | .name name => [.lookup name]
  | .str text => [.replace ("str " ++ Text.quoted text) (.str text)]
  | .int value => [.replace ("int " ++ toString value.toInt) (.int value)]
  | .float value => [.replace ("float " ++ Decimal.floatText value) (.float value)]
  | .group .blank => [.nothing "group ()"]
  | .group (.program program) => [.group program.steps]
  | .block .blank => [.block [.nothing "nothing", .commit]]
  | .block (.program program) => [.block program.steps]
  | .call target .blank => target.steps ++ [.call []]
  | .call target (.program program) => target.steps ++ [.call program.steps]
  | .member target name => target.steps ++ [.member name]

/-- The steps of a slot, with its commit. -/
def Slot.steps : Slot → Pipeline ι (Value ι)
  | .last .empty => [.nothing "nothing", .commit]
  | .last (.term term) => term.steps ++ [.commit]
  | .andThen .empty rest => .reset :: rest.steps
  | .andThen (.term term) rest => term.steps ++ .reset :: rest.steps

/-- The steps of a program. -/
def Program.steps : Program → Pipeline ι (Value ι)
  | .last (.last .empty) => []
  | .last slot => slot.steps
  | .andThen slot rest => slot.steps ++ rest.steps

end

end Syntax

/-- The pipeline of a source text. -/
def compile (source : String) : Except Syntax.Failure (Pipeline ι (Value ι)) := do
  let program ← Syntax.Program.ofSource source
  return program.steps

end Focal
