import Focal.Eval.Context

/-!
# Hosts

A host gives meaning to handles: it says what its functions do when they are called, what its
containers hold, and what its own steps do.  It reacts with a `Reaction`, which may use the state
of the host, make new identities, call values and look names up on them, and goes on with the
answers.  Every reaction ends after finitely many requests; only the calls it makes may not.
-/

namespace Focal

/-- What a host does in answer to a request, with states of type `σ` and a result of type `α`. -/
inductive Reaction (σ ι : Type) (α : Type) where
  /-- The result. -/
  | done (result : α)
  /-- Read the state of the host. -/
  | read (next : σ → Reaction σ ι α)
  /-- Replace the state of the host. -/
  | write (state : σ) (next : Reaction σ ι α)
  /-- Make a new identity. -/
  | allocate (next : Identity → Reaction σ ι α)
  /-- Call a value. -/
  | call (target : Value ι) (arguments : List (Value ι))
      (next : Except RunError (List (Value ι)) → Reaction σ ι α)
  /-- Look a name up on a value. -/
  | lookup (target : Value ι) (name : String)
      (next : Except RunError (Value ι) → Reaction σ ι α)

namespace Reaction

variable {σ ι α β : Type}

/-- Go on with the result of a reaction. -/
def bind : Reaction σ ι α → (α → Reaction σ ι β) → Reaction σ ι β
  | done result, continuation => continuation result
  | read next, continuation => read fun state => (next state).bind continuation
  | write state next, continuation => write state (next.bind continuation)
  | allocate next, continuation => allocate fun identity => (next identity).bind continuation
  | call target arguments next, continuation =>
      call target arguments fun answer => (next answer).bind continuation
  | lookup target name next, continuation =>
      lookup target name fun answer => (next answer).bind continuation

instance : Monad (Reaction σ ι) where
  pure := done
  bind := bind

end Reaction

/-- What the handles of a host mean. -/
structure Host (σ ι : Type) where
  /-- The results of calling a function of the host. -/
  call : ι → List (Value ι) → Reaction σ ι (Except RunError (List (Value ι)))
  /-- What a container of the host binds a name to. -/
  find : ι → String → Reaction σ ι (Option (Value ι))
  /-- The value that a mapping step of the host puts in the place of the current one, from the
  context without that value. -/
  mapStep : ι → Context ι → Value ι → Reaction σ ι (Except RunError (Value ι))
  /-- The values that a splicing step of the host puts in the place of the current one, from the
  context without that value. -/
  spliceStep : ι → Context ι → Value ι → Reaction σ ι (Except RunError (List (Value ι)))
  /-- The context that a modifying step of the host leaves, and whether the step failed. -/
  modifyStep : ι → Context ι → Reaction σ ι (Except RunError Unit × Context ι)

/-- What a run changes: the state of the host, and the number of identities made so far. -/
structure World (σ : Type) where
  host : σ
  allocated : Identity

/-- A computation that changes the world; there is no result when the calls nest too deeply. -/
abbrev Run (σ : Type) := StateT (World σ) Option

/-- A computation that changes the world and may fail with an error of the program. -/
abbrev Eval (σ : Type) := ExceptT RunError (Run σ)

namespace Run

variable {σ α : Type}

/-- Calls nest too deeply. -/
def tooDeep : Run σ α :=
  fun _ => none

/-- The state of the host. -/
def read : Run σ σ :=
  fun world => some (world.host, world)

/-- Replace the state of the host. -/
def write (state : σ) : Run σ Unit :=
  fun world => some ((), { world with host := state })

/-- The next identity. -/
def allocate : Run σ Identity :=
  fun world => some (world.allocated, { world with allocated := world.allocated + 1 })

end Run

/-- A computation that has already ended. -/
def Eval.ofExcept {σ α : Type} (result : Except RunError α) : Eval σ α :=
  ExceptT.mk (pure result)

/-- How callables and containers answer. -/
structure Answers (σ ι : Type) where
  /-- The results of a call. -/
  invoke : Callable ι → List (Value ι) → Eval σ (List (Value ι))
  /-- What a container binds a name to. -/
  find : Container ι → String → Run σ (Option (Value ι))

namespace Answers

variable {σ ι α : Type}

/-- Call a value, if it can be called. -/
def call (answers : Answers σ ι) (target : Value ι) (arguments : List (Value ι)) :
    Eval σ (List (Value ι)) :=
  match target.toCallable with
  | .ok callable => answers.invoke callable arguments
  | .error error => throw error

/-- Look a name up on a value, if it is a container that binds the name. -/
def lookup (answers : Answers σ ι) (target : Value ι) (name : String) : Eval σ (Value ι) :=
  match target.toContainer with
  | .ok container => do
      match ← answers.find container name with
      | some value => return value
      | none => throw (.unbound name)
  | .error error => throw error

/-- Carry out a reaction of the host. -/
def react (answers : Answers σ ι) : Reaction σ ι α → Run σ α
  | .done result => pure result
  | .read next => do react answers (next (← Run.read))
  | .write state next => do
      Run.write state
      react answers next
  | .allocate next => do react answers (next (← Run.allocate))
  | .call target arguments next => do
      let answer ← (answers.call target arguments).run
      react answers (next answer)
  | .lookup target name next => do
      let answer ← (answers.lookup target name).run
      react answers (next answer)

/-- Carry out a reaction that may fail. -/
def attempt (answers : Answers σ ι) (reaction : Reaction σ ι (Except RunError α)) : Eval σ α :=
  ExceptT.mk (answers.react reaction)

end Answers

end Focal
