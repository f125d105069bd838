import Focal.Eval.Machine

/-!
# Evaluation

Running a pipeline on a receiver gives its results.  Evaluating it with arguments, or calling a
closure of it with arguments, runs it on the first argument instead of the receiver.

Calls may nest without end, so every evaluation is given a depth: the number of calls that may be
active at once.  When that is exceeded there is no result.
-/

namespace Focal

variable {σ ι : Type}

/-- Run a pipeline on a context of its own and give its results. -/
def Pipeline.results (host : Host σ ι) (answers : Answers σ ι) (pipeline : Pipeline ι (Value ι))
    (receiver : Value ι) : Eval σ (List (Value ι)) := do
  let outcome ← Pipeline.run host answers pipeline (Context.fresh receiver)
  Eval.ofExcept outcome.results

namespace Host

/-- How callables and containers answer when calls may nest to a depth. -/
def answers (host : Host σ ι) : Nat → Answers σ ι
  | 0 =>
      { invoke := fun _ _ => ExceptT.mk Run.tooDeep
        find := fun container name =>
          match container with
          | .bindings entries => pure (entries.get? name)
          | .native _ _ => Run.tooDeep }
  | depth + 1 =>
      { invoke := fun callable arguments =>
          match callable with
          | .native _ handle => (host.answers depth).attempt (host.call handle arguments)
          | .closure body receiver =>
              Pipeline.results host (host.answers depth) body (arguments.headD receiver)
        find := fun container name =>
          match container with
          | .bindings entries => pure (entries.get? name)
          | .native _ handle => (host.answers depth).react (host.find handle name) }

/-- Run a pipeline on a receiver. -/
def run (host : Host σ ι) (depth : Nat) (pipeline : Pipeline ι (Value ι)) (receiver : Value ι) :
    Eval σ (List (Value ι)) :=
  Pipeline.results host (host.answers depth) pipeline receiver

/-- Run a pipeline on the first argument, or on the receiver when there is none. -/
def evaluate (host : Host σ ι) (depth : Nat) (pipeline : Pipeline ι (Value ι))
    (receiver : Value ι) (arguments : List (Value ι)) : Eval σ (List (Value ι)) :=
  host.run depth pipeline (arguments.headD receiver)

/-- Make a pipeline a callable value on a receiver. -/
def close (pipeline : Pipeline ι (Value ι)) (receiver : Value ι) : Run σ (Value ι) := do
  return .callable (← Run.allocate) (.closure pipeline receiver)

/-- Call a value. -/
def callValue (host : Host σ ι) (depth : Nat) (target : Value ι) (arguments : List (Value ι)) :
    Eval σ (List (Value ι)) :=
  (host.answers depth).call target arguments

/-- Look a name up on a value. -/
def lookupValue (host : Host σ ι) (depth : Nat) (target : Value ι) (name : String) :
    Eval σ (Value ι) :=
  (host.answers depth).lookup target name

end Host

end Focal
