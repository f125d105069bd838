import Focal.Eval.Host

/-!
# Running a pipeline

A step takes a context to the next one, or fails and leaves a context behind.  A step that
computes from the current value takes it out of the focus first, so a failing one leaves the
context without it.  A pipeline stops at the first step that fails and adds a note that names it.

Groups and the arguments of calls run on contexts of their own inside the step.  Calls nest to a
bounded depth, counted down by `Host.answers`; a run with a greater bound gives the same result,
if the smaller one gave any.
-/

namespace Focal

variable {σ ι : Type}

/-- Whether a step or pipeline failed, and the context it left. -/
abbrev Outcome (ι : Type) := Except RunError Unit × Context ι

/-- The results of a run on a context of its own. -/
def Outcome.results : Outcome ι → Except RunError (List (Value ι))
  | (.ok (), context) => .ok context.results
  | (.error error, _) => .error error

/-- Put values computed from the current one in its place.  The computation sees the context
without the current value. -/
def Context.transform (context : Context ι)
    (compute : Context ι → Value ι → Eval σ (List (Value ι))) : Run σ (Outcome ι) := do
  let rest := context.dropCurrent
  match ← (compute rest context.current).run with
  | .ok values => return (.ok (), rest.extend values)
  | .error error => return (.error error, rest)

/-- The note that a pipeline adds to the error of one of its steps. -/
def Step.note {ν : Type} (step : Step ι ν) : String :=
  "while running `" ++ step.label ++ "`"

mutual

/-- Apply one step. -/
def Step.apply (host : Host σ ι) (answers : Answers σ ι) :
    Step ι (Value ι) → Context ι → Run σ (Outcome ι)
  | .replace _ value, context => return (.ok (), context.replace value)
  | .lookup name, context => context.transform fun rest _ => do
      return [← answers.lookup rest.receiver name]
  | .member name, context => context.transform fun _ current => do
      return [← answers.lookup current name]
  | .block body, context => context.transform fun rest _ => do
      let identity ← (Run.allocate : Run σ Identity)
      return [.callable identity (.closure body rest.receiver)]
  | .group body, context => context.transform fun rest _ => do
      let outcome ← Pipeline.run host answers body rest.nested
      Eval.ofExcept outcome.results
  | .call arguments, context => context.transform fun rest current => do
      let callable ← Eval.ofExcept current.toCallable
      let outcome ← Pipeline.run host answers arguments rest.nested
      let values ← Eval.ofExcept outcome.results
      answers.invoke callable values
  | .commit, context => return (.ok (), context.commit)
  | .reset, context => return (.ok (), context.reset)
  | .hostMap _ handle, context => context.transform fun rest current => do
      return [← answers.attempt (host.mapStep handle rest current)]
  | .hostSplice _ handle, context => context.transform fun rest current =>
      answers.attempt (host.spliceStep handle rest current)
  | .hostModify _ handle, context => answers.react (host.modifyStep handle context)

/-- Apply the steps of a pipeline in order, up to the first one that fails. -/
def Pipeline.run (host : Host σ ι) (answers : Answers σ ι) :
    List (Step ι (Value ι)) → Context ι → Run σ (Outcome ι)
  | [], context => return (.ok (), context)
  | step :: rest, context => do
      match ← step.apply host answers context with
      | (.ok (), next) => Pipeline.run host answers rest next
      | (.error error, left) => return (.error (error.addNote step.note), left)

end

end Focal
