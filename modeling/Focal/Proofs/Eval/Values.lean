import Focal.Eval.Evaluate
import Focal.Pipeline.Compile

/-!
# What a program evaluates to

A syntax tree can be evaluated without steps, focus, commits and resets.  A program yields the
values of its slots one after another.  A slot evaluates its segments in order and yields the values
of the last one, or a nothing where that is empty.  A term yields a list of values; a call or member
access acts on the last of them, keeps the others in front and puts its own values behind them.

The steps of a tree compute just that (`Program.results_steps`): running them from a fresh context
and evaluating the tree are the same computation, with the same effects in the same order, the same
results, and the same errors down to the notes.
-/

namespace Focal

variable {σ ι : Type}

/-- A computation whose errors get a note. -/
def Eval.noted {α : Type} (note : String) (computation : Eval σ α) : Eval σ α :=
  ExceptT.adapt (·.addNote note) computation

theorem Eval.noted_apply {α : Type} (note : String) (computation : Eval σ α) (world : World σ) :
    Eval.noted note computation world =
      (computation world).map (Prod.map (Except.mapError (·.addNote note)) id) := by
  change Option.bind (computation world) _ = _
  cases computation world <;> rfl

namespace Syntax

/-! ## Evaluation of trees -/

/-- The pipeline that a block keeps for later. -/
def Body.deferred : Body → Pipeline ι (Value ι)
  | .blank => [.nothing "nothing", .commit]
  | .program tree => tree.steps

mutual

/-- The values of a primary and its trailers. -/
def Term.values (answers : Answers σ ι) (receiver : Value ι) : Term → Eval σ (List (Value ι))
  | .receiver => return [receiver]
  | .name name =>
      Eval.noted (Step.note (.lookup name : Step ι (Value ι))) do
        return [← answers.lookup receiver name]
  | .str text => return [.str text]
  | .int value => return [.int value]
  | .float value => return [.float value]
  | .group .blank => return [.nothing]
  | .group (.program program) =>
      Eval.noted (Step.note (.group program.steps : Step ι (Value ι)))
        (program.values answers receiver)
  | .block body => do
      let identity ← (Run.allocate : Run σ Identity)
      return [.callable identity (.closure body.deferred receiver)]
  | .call target .blank => do
      let values ← target.values answers receiver
      let results ← Eval.noted (Step.note (.call [] : Step ι (Value ι))) do
        let callable ← Eval.ofExcept (values.getLastD .nothing).toCallable
        answers.invoke callable []
      return values.dropLast ++ results
  | .call target (.program arguments) => do
      let values ← target.values answers receiver
      let results ← Eval.noted (Step.note (.call arguments.steps : Step ι (Value ι))) do
        let callable ← Eval.ofExcept (values.getLastD .nothing).toCallable
        answers.invoke callable (← arguments.values answers receiver)
      return values.dropLast ++ results
  | .member target name => do
      let values ← target.values answers receiver
      let results ← Eval.noted (Step.note (.member name : Step ι (Value ι))) do
        return [← answers.lookup (values.getLastD .nothing) name]
      return values.dropLast ++ results

/-- The values of the last segment of a slot, behind those before it. -/
def Slot.values (answers : Answers σ ι) (receiver : Value ι) : Slot → Eval σ (List (Value ι))
  | .last .empty => return [.nothing]
  | .last (.term term) => term.values answers receiver
  | .andThen .empty rest => rest.values answers receiver
  | .andThen (.term term) rest => do
      let _ ← term.values answers receiver
      rest.values answers receiver

/-- The values of the slots of a program, without a last one that holds no token. -/
def Program.values (answers : Answers σ ι) (receiver : Value ι) :
    Program → Eval σ (List (Value ι))
  | .last (.last .empty) => return []
  | .last slot => slot.values answers receiver
  | .andThen slot rest => do
      return (← slot.values answers receiver) ++ (← rest.values answers receiver)

end

/-- A call of a block invokes the closure of the block on what the arguments evaluate to. -/
theorem Term.values_call_block (answers : Answers σ ι) (receiver : Value ι) (body : Body)
    (arguments : Program) :
    (Term.call (.block body) (.program arguments)).values answers receiver = (do
      let _ ← (Run.allocate : Run σ Identity)
      Eval.noted (Step.note (.call arguments.steps : Step ι (Value ι))) do
        answers.invoke (.closure body.deferred receiver) (← arguments.values answers receiver)) := by
  simp only [Term.values, bind_assoc, pure_bind, List.getLastD, Value.toCallable, List.dropLast,
    List.nil_append, bind_pure]
  rfl

end Syntax

/-! ## Runs that go on from a context -/

/-- The results of running steps from a context. -/
def Pipeline.resultsFrom (host : Host σ ι) (answers : Answers σ ι)
    (steps : Pipeline ι (Value ι)) (context : Context ι) : Eval σ (List (Value ι)) := do
  let outcome ← Pipeline.run host answers steps context
  Eval.ofExcept outcome.results

variable (host : Host σ ι) (answers : Answers σ ι)

theorem Pipeline.resultsFrom_nil (context : Context ι) :
    Pipeline.resultsFrom host answers [] context = pure context.results := by
  rw [Pipeline.resultsFrom, Pipeline.run]
  rfl

/-- A step that cannot fail goes on from the context it leaves. -/
theorem Pipeline.resultsFrom_of_next {step : Step ι (Value ι)} {context next : Context ι}
    (applied : step.apply host answers context = pure (.ok (), next))
    (rest : Pipeline ι (Value ι)) :
    Pipeline.resultsFrom host answers (step :: rest) context =
      Pipeline.resultsFrom host answers rest next := by
  rw [Pipeline.resultsFrom, Pipeline.run, applied, pure_bind]
  rfl

/-- A step that computes from the current value goes on with what it computes in its place. -/
theorem Pipeline.resultsFrom_of_transform {step : Step ι (Value ι)} {context : Context ι}
    {compute : Context ι → Value ι → Eval σ (List (Value ι))}
    (applied : step.apply host answers context = context.transform compute)
    (rest : Pipeline ι (Value ι)) :
    Pipeline.resultsFrom host answers (step :: rest) context =
      Eval.noted step.note (compute context.dropCurrent context.current) >>= fun values =>
        Pipeline.resultsFrom host answers rest (context.dropCurrent.extend values) := by
  funext world
  rw [Pipeline.resultsFrom, Pipeline.run, applied, Context.transform]
  generalize compute context.dropCurrent context.current = computed
  simp only [bind, ExceptT.bind, ExceptT.mk, ExceptT.run, StateT.bind, Eval.noted_apply, liftM,
    monadLift, MonadLift.monadLift, ExceptT.lift, Functor.map, StateT.map]
  cases computed world with
  | none => rfl
  | some found =>
      rcases found with ⟨result, after⟩
      cases result <;> rfl

/-- What a step computes in the place of the current value, if it is of that kind. -/
def Step.compute? : Step ι (Value ι) →
    Option (Context ι → Value ι → Eval σ (List (Value ι)))
  | .lookup name => some fun rest _ => do return [← answers.lookup rest.receiver name]
  | .member name => some fun _ current => do return [← answers.lookup current name]
  | .block body => some fun rest _ => do
      let identity ← (Run.allocate : Run σ Identity)
      return [.callable identity (.closure body rest.receiver)]
  | .group body => some fun rest _ =>
      Pipeline.resultsFrom host answers body (Context.fresh rest.receiver)
  | .call arguments => some fun rest current => do
      let callable ← Eval.ofExcept current.toCallable
      answers.invoke callable
        (← Pipeline.resultsFrom host answers arguments (Context.fresh rest.receiver))
  | _ => none

theorem Step.apply_of_compute? {step : Step ι (Value ι)} (context : Context ι)
    {compute : Context ι → Value ι → Eval σ (List (Value ι))}
    (computes : step.compute? host answers = some compute) :
    step.apply host answers context = context.transform compute := by
  cases step with
  | call arguments =>
      obtain rfl := Option.some.inj computes
      rw [Step.apply]
      simp only [Pipeline.resultsFrom, bind_assoc]
      rfl
  | lookup name => obtain rfl := Option.some.inj computes; rw [Step.apply]
  | member name => obtain rfl := Option.some.inj computes; rw [Step.apply]
  | block body => obtain rfl := Option.some.inj computes; rw [Step.apply]
  | group body => obtain rfl := Option.some.inj computes; rw [Step.apply]; rfl
  | _ => simp [Step.compute?] at computes

/-- A step that computes goes on with what it computes in the place of the current value. -/
theorem Pipeline.resultsFrom_of_compute? (step : Step ι (Value ι))
    {compute : Context ι → Value ι → Eval σ (List (Value ι))}
    (computes : step.compute? host answers = some compute) (context : Context ι)
    (rest : Pipeline ι (Value ι)) :
    Pipeline.resultsFrom host answers (step :: rest) context =
      Eval.noted step.note (compute context.dropCurrent context.current) >>= fun values =>
        Pipeline.resultsFrom host answers rest (context.dropCurrent.extend values) :=
  Pipeline.resultsFrom_of_transform host answers
    (Step.apply_of_compute? host answers context computes) rest

theorem Pipeline.resultsFrom_replace (label : String) (value : Value ι)
    (rest : Pipeline ι (Value ι)) (context : Context ι) :
    Pipeline.resultsFrom host answers (.replace label value :: rest) context =
      Pipeline.resultsFrom host answers rest (context.replace value) :=
  Pipeline.resultsFrom_of_next host answers (by rw [Step.apply]) rest

theorem Pipeline.resultsFrom_commit (rest : Pipeline ι (Value ι)) (context : Context ι) :
    Pipeline.resultsFrom host answers (.commit :: rest) context =
      Pipeline.resultsFrom host answers rest context.commit :=
  Pipeline.resultsFrom_of_next host answers (by rw [Step.apply]) rest

theorem Pipeline.resultsFrom_reset (rest : Pipeline ι (Value ι)) (context : Context ι) :
    Pipeline.resultsFrom host answers (.reset :: rest) context =
      Pipeline.resultsFrom host answers rest context.reset :=
  Pipeline.resultsFrom_of_next host answers (by rw [Step.apply]) rest

/-! ## The steps of a tree -/

namespace Syntax

variable {host answers}

mutual

/-- From a receiver in focus, the steps of a term lead to its values in focus. -/
theorem Term.resultsFrom_steps (term : Term) (receiver : Value ι) (results : List (Value ι))
    (rest : Pipeline ι (Value ι)) :
    Pipeline.resultsFrom host answers (term.steps ++ rest)
        { receiver, focus := [receiver], results } =
      term.values answers receiver >>= fun values =>
        Pipeline.resultsFrom host answers rest { receiver, focus := values, results } := by
  match term with
  | .receiver =>
      rw [Term.values, pure_bind]
      rfl
  | .name name =>
      rw [Term.values]
      exact Pipeline.resultsFrom_of_compute? host answers (.lookup name) rfl _ rest
  | .str text =>
      rw [Term.values, pure_bind]
      exact Pipeline.resultsFrom_replace host answers _ _ rest _
  | .int value =>
      rw [Term.values, pure_bind]
      exact Pipeline.resultsFrom_replace host answers _ _ rest _
  | .float value =>
      rw [Term.values, pure_bind]
      exact Pipeline.resultsFrom_replace host answers _ _ rest _
  | .group .blank =>
      rw [Term.values, pure_bind]
      exact Pipeline.resultsFrom_replace host answers _ _ rest _
  | .group (.program program) =>
      rw [Term.values, ← program.resultsFrom_fresh]
      exact Pipeline.resultsFrom_of_compute? host answers (.group program.steps) rfl _ rest
  | .block .blank =>
      rw [Term.values]
      exact Pipeline.resultsFrom_of_compute? host answers (.block (Body.deferred .blank)) rfl _ rest
  | .block (.program program) =>
      rw [Term.values]
      exact Pipeline.resultsFrom_of_compute? host answers (.block program.steps) rfl _ rest
  | .call target .blank =>
      rw [Term.values, Term.steps, List.append_assoc, target.resultsFrom_steps, bind_assoc]
      apply bind_congr
      intro values
      rw [bind_assoc]
      exact Pipeline.resultsFrom_of_compute? host answers (.call []) rfl _ rest
  | .call target (.program arguments) =>
      rw [Term.values, Term.steps, List.append_assoc, target.resultsFrom_steps, bind_assoc]
      apply bind_congr
      intro values
      rw [bind_assoc, ← arguments.resultsFrom_fresh]
      exact Pipeline.resultsFrom_of_compute? host answers (.call arguments.steps) rfl _ rest
  | .member target name =>
      rw [Term.values, Term.steps, List.append_assoc, target.resultsFrom_steps, bind_assoc]
      apply bind_congr
      intro values
      rw [bind_assoc]
      exact Pipeline.resultsFrom_of_compute? host answers (.member name) rfl _ rest

/-- From a receiver in focus, the steps of a slot add its values to the results. -/
theorem Slot.resultsFrom_steps (slot : Slot) (receiver : Value ι) (results : List (Value ι))
    (rest : Pipeline ι (Value ι)) :
    Pipeline.resultsFrom host answers (slot.steps ++ rest)
        { receiver, focus := [receiver], results } =
      slot.values answers receiver >>= fun values =>
        Pipeline.resultsFrom host answers rest
          { receiver, focus := [receiver], results := results ++ values } := by
  match slot with
  | .last .empty =>
      rw [Slot.values, pure_bind]
      exact (Pipeline.resultsFrom_replace host answers _ _ _ _).trans
        (Pipeline.resultsFrom_commit host answers rest _)
  | .last (.term term) =>
      rw [Slot.values, Slot.steps, List.append_assoc, term.resultsFrom_steps]
      apply bind_congr
      intro values
      exact Pipeline.resultsFrom_commit host answers rest _
  | .andThen .empty others =>
      rw [Slot.values, ← others.resultsFrom_steps receiver results rest]
      exact Pipeline.resultsFrom_reset host answers _ _
  | .andThen (.term term) others =>
      rw [Slot.values, Slot.steps, List.append_assoc, term.resultsFrom_steps, bind_assoc]
      apply bind_congr
      intro values
      rw [← others.resultsFrom_steps receiver results rest]
      exact Pipeline.resultsFrom_reset host answers _ _

theorem Slot.resultsFrom_end (slot : Slot) (receiver : Value ι) (results : List (Value ι)) :
    Pipeline.resultsFrom host answers slot.steps { receiver, focus := [receiver], results } =
      slot.values answers receiver >>= fun values => pure (results ++ values) := by
  rw [← List.append_nil slot.steps, slot.resultsFrom_steps]
  simp only [Pipeline.resultsFrom_nil]

/-- From a receiver in focus, the steps of a program add its values to the results. -/
theorem Program.resultsFrom_steps (program : Program) (receiver : Value ι)
    (results : List (Value ι)) :
    Pipeline.resultsFrom host answers program.steps { receiver, focus := [receiver], results } =
      program.values answers receiver >>= fun values => pure (results ++ values) := by
  match program with
  | .last (.last .empty) =>
      rw [Program.values, pure_bind, Program.steps, Pipeline.resultsFrom_nil, List.append_nil]
  | .last (.last (.term term)) =>
      exact (Slot.last (.term term)).resultsFrom_end receiver results
  | .last (.andThen segment others) =>
      exact (Slot.andThen segment others).resultsFrom_end receiver results
  | .andThen slot others =>
      rw [Program.values, Program.steps, slot.resultsFrom_steps]
      simp only [others.resultsFrom_steps, bind_assoc, pure_bind, List.append_assoc]

/-- The steps of a program compute its values. -/
theorem Program.resultsFrom_fresh (program : Program) (receiver : Value ι) :
    Pipeline.resultsFrom host answers program.steps (Context.fresh receiver) =
      program.values answers receiver := by
  rw [Context.fresh, program.resultsFrom_steps receiver []]
  exact bind_pure _

end

end Syntax

end Focal
