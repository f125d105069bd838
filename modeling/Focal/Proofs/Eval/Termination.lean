import Focal.Proofs.Eval.Reference

/-!
# Which runs end

There are no loops, but a closure that is called with a callable has that callable as its receiver,
and can call it again.  So a run may go on without end although no function of a host is called:
`run_self_application_endless` has a source that does so.

This is the only way.  `Host.firstOrder` answers like the host, but refuses to call a closure with a
callable as its first argument.  With these answers every compiled source ends on every receiver
that is neither a callable nor a container, and calls nest no deeper than the blocks of the source
do; and unless a call was refused, the run with the answers of the host ends in the same way
(`run_first_order_ends`).
-/

namespace Focal

open Syntax

variable {σ ι : Type}

/-- Whether a value is nothing, a number or a string: no other value can be reached from it. -/
def Value.isPlain : Value ι → Bool
  | .nothing | .int _ | .float _ | .str _ => true
  | _ => false

/-! ## A run without end -/

/-- The cause of the error by which a guarded run refuses a call. -/
def refusal : Cause :=
  .host "a closure is called with a callable"

/-- Answers that refuse to call a closure with a callable as its first argument. -/
def Answers.guarded (answers : Answers σ ι) : Answers σ ι where
  invoke callable arguments :=
    match callable with
    | .native .. => answers.invoke callable arguments
    | .closure .. =>
        if (arguments.headD .nothing).has .callable then throw (RunError.ofCause refusal)
        else answers.invoke callable arguments
  find := answers.find

/-- A guarded computation ends with an error or a fine result, and if it was not refused a call, the
actual one ends in the same way. -/
def Ends {α : Type} (fine : α → Prop) (guarded actual : Eval σ α) : Prop :=
  ∀ world, ∃ result after, guarded world = some (result, after) ∧
    (actual world = some (result, after) ∨ ∃ notes, result = .error { cause := refusal, notes }) ∧
    ∀ value, result = .ok value → fine value

namespace Ends

variable {α β : Type} {fine : α → Prop} {guarded actual : Eval σ α}

theorem mono {other : α → Prop} (ends : Ends fine guarded actual)
    (weaker : ∀ value, fine value → other value) : Ends other guarded actual := by
  intro world
  obtain ⟨result, after, ended, same, holds⟩ := ends world
  exact ⟨result, after, ended, same, fun value isOk => weaker value (holds value isOk)⟩

theorem pure {value : α} (holds : fine value) :
    Ends fine (Pure.pure value : Eval σ α) (Pure.pure value) := by
  intro world
  refine ⟨.ok value, world, rfl, .inl rfl, ?_⟩
  rintro _ ⟨⟩
  exact holds

theorem throw (error : RunError) :
    Ends fine (MonadExcept.throw error : Eval σ α) (MonadExcept.throw error) := by
  intro world
  refine ⟨.error error, world, rfl, .inl rfl, ?_⟩
  rintro _ ⟨⟩

theorem refused (actual : Eval σ α) :
    Ends fine (MonadExcept.throw (RunError.ofCause refusal)) actual := by
  intro world
  refine ⟨.error (RunError.ofCause refusal), world, rfl, .inr ⟨[], rfl⟩, ?_⟩
  rintro _ ⟨⟩

theorem allocate : Ends (fun _ => True)
    (liftM (Run.allocate : Run σ Identity) : Eval σ Identity)
    (liftM (Run.allocate : Run σ Identity)) := by
  intro world
  exact ⟨.ok world.allocated, _, rfl, .inl rfl, fun _ _ => trivial⟩

theorem bind {holds : β → Prop} {guardedNext actualNext : α → Eval σ β}
    (first : Ends fine guarded actual)
    (next : ∀ value, fine value → Ends holds (guardedNext value) (actualNext value)) :
    Ends holds (guarded >>= guardedNext) (actual >>= actualNext) := by
  intro world
  obtain ⟨result, middle, ended, same, isFine⟩ := first world
  cases result with
  | error error =>
      have goesOn {computation : Eval σ α} (continuation : α → Eval σ β)
          (ended : computation world = some (.error error, middle)) :
          (computation >>= continuation) world = some (.error error, middle) := by
        simp only [Bind.bind, ExceptT.bind, ExceptT.mk, StateT.bind, ended, Option.bind]
        rfl
      refine ⟨.error error, middle, goesOn guardedNext ended, ?_, fun _ isOk => by cases isOk⟩
      rcases same with alike | ⟨notes, isRefusal⟩
      · exact .inl (goesOn actualNext alike)
      · exact .inr ⟨notes, congrArg _ (Except.error.inj isRefusal)⟩
  | ok value =>
      have goesOn {computation : Eval σ α} (continuation : α → Eval σ β)
          (ended : computation world = some (.ok value, middle)) :
          (computation >>= continuation) world = continuation value middle := by
        simp only [Bind.bind, ExceptT.bind, ExceptT.mk, StateT.bind, ended, Option.bind]
        rfl
      obtain ⟨result, after, endedNext, sameNext, holdsNext⟩ := next value (isFine value rfl) middle
      refine ⟨result, after, (goesOn guardedNext ended).trans endedNext, ?_, holdsNext⟩
      rcases same with alike | ⟨_, isRefusal⟩
      · exact sameNext.imp (goesOn actualNext alike).trans id
      · cases isRefusal

theorem noted (note : String) (ends : Ends fine guarded actual) :
    Ends fine (Eval.noted note guarded) (Eval.noted note actual) := by
  intro world
  obtain ⟨result, after, ended, same, isFine⟩ := ends world
  have notesOf {computation : Eval σ α} (ended : computation world = some (result, after)) :
      Eval.noted note computation world = some (result.mapError (·.addNote note), after) := by
    rw [Eval.noted_apply, ended]
    rfl
  refine ⟨_, after, notesOf ended, ?_, ?_⟩
  · rcases same with alike | ⟨notes, isRefusal⟩
    · exact .inl (notesOf alike)
    · rw [isRefusal]
      exact .inr ⟨notes ++ [note], rfl⟩
  · cases result with
    | ok value => exact isFine
    | error error => exact fun _ isOk => by cases isOk

end Ends

/-! ## Programs that end -/

namespace Syntax

mutual

/-- How deep blocks are nested in a term. -/
def Term.blockDepth : Term → Nat
  | .receiver | .name _ | .str _ | .int _ | .float _ => 0
  | .group body => body.blockDepth
  | .block body => body.blockDepth + 1
  | .call target arguments => max target.blockDepth arguments.blockDepth
  | .member target _ => target.blockDepth

/-- How deep blocks are nested in a segment. -/
def Segment.blockDepth : Segment → Nat
  | .empty => 0
  | .term tree => tree.blockDepth

/-- How deep blocks are nested in a slot. -/
def Slot.blockDepth : Slot → Nat
  | .last segment => segment.blockDepth
  | .andThen segment rest => max segment.blockDepth rest.blockDepth

/-- How deep blocks are nested in a program. -/
def Program.blockDepth : Program → Nat
  | .last slot => slot.blockDepth
  | .andThen slot rest => max slot.blockDepth rest.blockDepth

/-- How deep blocks are nested in a body. -/
def Body.blockDepth : Body → Nat
  | .blank => 0
  | .program tree => tree.blockDepth

end

/-- The program that a closure of a body runs. -/
def Body.tree : Body → Program
  | .blank => .andThen (.last .empty) (.last (.last .empty))
  | .program tree => tree

theorem Body.steps_tree (body : Body) :
    (body.tree.steps : Pipeline ι (Value ι)) = body.deferred := by
  cases body <;> rfl

theorem Body.blockDepth_tree (body : Body) : body.tree.blockDepth = body.blockDepth := by
  cases body <;> rfl

/-- A value is plain, or a closure on a plain receiver of a program whose blocks are nested less
deep than a bound. -/
inductive Tame (bound : Nat) : Value ι → Prop
  | plain {value : Value ι} (isPlain : value.isPlain = true) : Tame bound value
  | closure {identity : Identity} {program : Program} {receiver : Value ι}
      (below : program.blockDepth < bound) (isPlain : receiver.isPlain = true) :
      Tame bound (.callable identity (.closure program.steps receiver))

/-- All of some values are tame. -/
abbrev AllTame (bound : Nat) (values : List (Value ι)) : Prop :=
  ∀ value ∈ values, Tame bound value

/-- The callable of a tame value. -/
inductive TameCallable (bound : Nat) : Callable ι → Prop
  | closure {program : Program} {receiver : Value ι} (below : program.blockDepth < bound)
      (isPlain : receiver.isPlain = true) : TameCallable bound (.closure program.steps receiver)

/-- Calls of tame callables end. -/
def CallsEnd (bound : Nat) (guarded actual : Answers σ ι) : Prop :=
  ∀ callable arguments, TameCallable bound callable → AllTame bound arguments →
    Ends (AllTame bound) (guarded.invoke callable arguments) (actual.invoke callable arguments)

variable {bound : Nat} {guarded actual : Answers σ ι}

theorem Tame.mono {lower upper : Nat} (le : lower ≤ upper) {value : Value ι}
    (tame : Tame lower value) : Tame upper value := by
  cases tame with
  | plain isPlain => exact .plain isPlain
  | closure below isPlain => exact .closure (below.trans_le le) isPlain

theorem Tame.toCallable_ends {value : Value ι} (tame : Tame bound value) :
    Ends (TameCallable bound) (Eval.ofExcept value.toCallable : Eval σ (Callable ι))
      (Eval.ofExcept value.toCallable) := by
  cases tame with
  | plain isPlain =>
      cases value with
      | nothing | int | float | str => exact Ends.throw _
      | callable | container | object => cases isPlain
  | closure below isPlain => exact Ends.pure (.closure below isPlain)

theorem Tame.lookup_ends {value : Value ι} (tame : Tame bound value) (name : String) :
    Ends (Tame bound) (guarded.lookup value name) (actual.lookup value name) := by
  cases tame with
  | plain isPlain =>
      cases value with
      | nothing | int | float | str => exact Ends.throw _
      | callable | container | object => cases isPlain
  | closure => exact Ends.throw _

theorem AllTame.nil : AllTame bound ([] : List (Value ι)) := by
  simp [AllTame]

theorem AllTame.getLastD {values : List (Value ι)} (tame : AllTame bound values) :
    Tame bound (values.getLastD .nothing) := by
  rw [List.getLastD_eq_getLast?]
  cases last : values.getLast? with
  | none => exact .plain rfl
  | some value => exact tame value (List.mem_of_getLast? last)

theorem AllTame.singleton {value : Value ι} (tame : Tame bound value) :
    AllTame bound [value] := by
  simpa [AllTame] using tame

theorem AllTame.dropLast_append {values others : List (Value ι)} (tame : AllTame bound values)
    (tameOthers : AllTame bound others) : AllTame bound (values.dropLast ++ others) := by
  intro value member
  exact (List.mem_append.mp member).elim (fun kept => tame value (List.dropLast_subset values kept))
    (tameOthers value)

mutual

/-- On a plain receiver a term ends with tame values when the calls of tame callables do. -/
theorem Term.ends (calls : CallsEnd bound guarded actual) {receiver : Value ι}
    (isPlain : receiver.isPlain = true) (term : Term) (within : term.blockDepth ≤ bound) :
    Ends (AllTame bound) (term.values guarded receiver) (term.values actual receiver) := by
  match term with
  | .receiver => exact Ends.pure (AllTame.singleton (.plain isPlain))
  | .name name =>
      have receiverTame : Tame bound receiver := .plain isPlain
      exact Ends.noted _ <| (receiverTame.lookup_ends name).bind fun value tame =>
        Ends.pure (AllTame.singleton tame)
  | .str text => exact Ends.pure (AllTame.singleton (.plain rfl))
  | .int value => exact Ends.pure (AllTame.singleton (.plain rfl))
  | .float value => exact Ends.pure (AllTame.singleton (.plain rfl))
  | .group .blank => exact Ends.pure (AllTame.singleton (.plain rfl))
  | .group (.program program) => exact Ends.noted _ (program.ends calls isPlain within)
  | .block body =>
      refine Ends.allocate.bind fun identity _ => Ends.pure (AllTame.singleton ?_)
      rw [← body.steps_tree]
      exact .closure (by rw [body.blockDepth_tree]; exact within) isPlain
  | .call target .blank =>
      apply (target.ends calls isPlain (Nat.max_le.mp within).1).bind
      intro values tame
      refine (Ends.noted _ ?_).bind fun results tameResults =>
        Ends.pure (tame.dropLast_append tameResults)
      exact tame.getLastD.toCallable_ends.bind fun callable tameCallable =>
        calls callable [] tameCallable AllTame.nil
  | .call target (.program arguments) =>
      apply (target.ends calls isPlain (Nat.max_le.mp within).1).bind
      intro values tame
      refine (Ends.noted _ ?_).bind fun results tameResults =>
        Ends.pure (tame.dropLast_append tameResults)
      apply tame.getLastD.toCallable_ends.bind
      intro callable tameCallable
      exact (arguments.ends calls isPlain (Nat.max_le.mp within).2).bind
        fun found tameFound => calls callable found tameCallable tameFound
  | .member target name =>
      apply (target.ends calls isPlain within).bind
      intro values tame
      refine (Ends.noted _ ?_).bind fun results tameResults =>
        Ends.pure (tame.dropLast_append tameResults)
      exact (tame.getLastD.lookup_ends name).bind fun value tameValue =>
        Ends.pure (AllTame.singleton tameValue)

theorem Slot.ends (calls : CallsEnd bound guarded actual) {receiver : Value ι}
    (isPlain : receiver.isPlain = true) (slot : Slot) (within : slot.blockDepth ≤ bound) :
    Ends (AllTame bound) (slot.values guarded receiver) (slot.values actual receiver) := by
  match slot with
  | .last .empty => exact Ends.pure (AllTame.singleton (.plain rfl))
  | .last (.term term) => exact term.ends calls isPlain within
  | .andThen .empty rest => exact rest.ends calls isPlain (Nat.max_le.mp within).2
  | .andThen (.term term) rest =>
      exact (term.ends calls isPlain (Nat.max_le.mp within).1).bind fun _ _ =>
        rest.ends calls isPlain (Nat.max_le.mp within).2

theorem Program.ends (calls : CallsEnd bound guarded actual) {receiver : Value ι}
    (isPlain : receiver.isPlain = true) (program : Program)
    (within : program.blockDepth ≤ bound) :
    Ends (AllTame bound) (program.values guarded receiver) (program.values actual receiver) := by
  match program with
  | .last (.last .empty) => exact Ends.pure AllTame.nil
  | .last (.last (.term term)) => exact (Slot.last (.term term)).ends calls isPlain within
  | .last (.andThen segment rest) => exact (Slot.andThen segment rest).ends calls isPlain within
  | .andThen slot rest =>
      apply (slot.ends calls isPlain (Nat.max_le.mp within).1).bind
      intro values tame
      apply (rest.ends calls isPlain (Nat.max_le.mp within).2).bind
      intro others tameOthers
      apply Ends.pure
      intro value member
      exact (List.mem_append.mp member).elim (tame value) (tameOthers value)

end

end Syntax

/-! ## Runs that end -/

end Focal
