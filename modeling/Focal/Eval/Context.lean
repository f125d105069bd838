import Focal.Value.Basic

/-!
# Contexts

A pipeline runs on a context of its own.  The context holds the receiver, which never changes,
the pending values of the current slot, of which the last one is the current value, and the
results of the slots that have ended.  A slot starts with the receiver as its only pending value.
-/

namespace Focal

/-- What a running pipeline works on. -/
structure Context (ι : Type) where
  /-- The value that the pipeline runs against. -/
  receiver : Value ι
  /-- The pending values of the current slot, the current value last. -/
  focus : List (Value ι)
  /-- The values of the slots that have ended. -/
  results : List (Value ι)

namespace Context

variable {ι : Type}

/-- The context in which a run on a receiver starts. -/
def fresh (receiver : Value ι) : Context ι :=
  { receiver, focus := [receiver], results := [] }

/-- A context for a nested run on the same receiver. -/
def nested (context : Context ι) : Context ι :=
  fresh context.receiver

/-- The last pending value, or nothing. -/
def current (context : Context ι) : Value ι :=
  context.focus.getLastD .nothing

/-- The context without its current value. -/
def dropCurrent (context : Context ι) : Context ι :=
  { context with focus := context.focus.dropLast }

/-- Add pending values behind the others. -/
def extend (context : Context ι) (values : List (Value ι)) : Context ι :=
  { context with focus := context.focus ++ values }

/-- Add one pending value behind the others. -/
def push (context : Context ι) (value : Value ι) : Context ι :=
  context.extend [value]

/-- Put a value in the place of the current one. -/
def replace (context : Context ι) (value : Value ι) : Context ι :=
  context.dropCurrent.push value

/-- End the slot: its pending values become results, and the receiver is in focus again. -/
def commit (context : Context ι) : Context ι :=
  { context with
    focus := [context.receiver]
    results := context.results ++ context.focus }

/-- Drop the pending values and put the receiver in focus again. -/
def reset (context : Context ι) : Context ι :=
  { context with focus := [context.receiver] }

end Context

end Focal
