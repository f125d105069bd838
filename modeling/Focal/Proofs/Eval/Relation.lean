import Focal.Eval.Evaluate

/-!
# Related runs

A relation between computations that results, sequences and new identities keep is kept by whole
runs (`RunRelation.run_related`): if the callables and containers of two hosts, and their own steps,
answer in related ways, then so do the runs of one pipeline with both.
-/

namespace Focal

/-- A relation between the computations on two sorts of worlds that whole runs keep. -/
structure RunRelation (σ τ : Type) where
  /-- The relation, for computations with results of any type. -/
  Relates : ∀ {α : Type}, Run σ α → Run τ α → Prop
  /-- Computations that only give a result are related. -/
  pure : ∀ {α : Type} (value : α), Relates (Pure.pure value) (Pure.pure value)
  /-- What is done one after the other may be related part by part. -/
  bind : ∀ {α β : Type} {first : Run σ α} {second : Run τ α} {firstNext : α → Run σ β}
    {secondNext : α → Run τ β}, Relates first second →
      (∀ value, Relates (firstNext value) (secondNext value)) →
        Relates (first >>= firstNext) (second >>= secondNext)
  /-- Making an identity is related to making one. -/
  allocate : Relates Run.allocate Run.allocate

variable {σ τ ι α β : Type} (relation : RunRelation σ τ)

namespace RunRelation

/-- Two computations that may fail are related. -/
def RelatesEval (first : Eval σ α) (second : Eval τ α) : Prop :=
  relation.Relates first.run second.run

variable {relation}

theorem pureExcept (result : Except RunError α) :
    relation.RelatesEval (Eval.ofExcept result) (Eval.ofExcept result) :=
  relation.pure result

theorem bindExcept {first : Eval σ α} {second : Eval τ α} {firstNext : α → Eval σ β}
    {secondNext : α → Eval τ β} (related : relation.RelatesEval first second)
    (next : ∀ value, relation.RelatesEval (firstNext value) (secondNext value)) :
    relation.RelatesEval (first >>= firstNext) (second >>= secondNext) := by
  refine relation.bind related fun result => ?_
  cases result with
  | ok value => exact next value
  | error error => exact relation.pure _

theorem lift {first : Run σ α} {second : Run τ α} (related : relation.Relates first second) :
    relation.RelatesEval (liftM first) (liftM second) := by
  have mapped := relation.bind related fun value =>
    relation.pure (Except.ok value : Except RunError α)
  exact mapped

theorem transform {context : Context ι}
    {first : Context ι → Value ι → Eval σ (List (Value ι))}
    {second : Context ι → Value ι → Eval τ (List (Value ι))}
    (related : ∀ rest current, relation.RelatesEval (first rest current) (second rest current)) :
    relation.Relates (context.transform first) (context.transform second) := by
  rw [Context.transform, Context.transform]
  apply relation.bind (related _ _)
  intro result
  cases result <;> exact relation.pure _

end RunRelation

/-! ## Answers -/

/-- Callables and containers answer in related ways. -/
structure RunRelation.RelatesAnswers (first : Answers σ ι) (second : Answers τ ι) : Prop where
  invoke : ∀ callable arguments,
    relation.RelatesEval (first.invoke callable arguments) (second.invoke callable arguments)
  find : ∀ container name,
    relation.Relates (first.find container name) (second.find container name)

/-- The reactions of two hosts to the same request are carried out in related ways. -/
structure RunRelation.RelatesHosts (firstHost : Host σ ι) (first : Answers σ ι)
    (secondHost : Host τ ι) (second : Answers τ ι) : Prop where
  call : ∀ handle arguments, relation.Relates (first.react (firstHost.call handle arguments))
    (second.react (secondHost.call handle arguments))
  find : ∀ handle name, relation.Relates (first.react (firstHost.find handle name))
    (second.react (secondHost.find handle name))
  mapStep : ∀ handle context value,
    relation.Relates (first.react (firstHost.mapStep handle context value))
      (second.react (secondHost.mapStep handle context value))
  spliceStep : ∀ handle context value,
    relation.Relates (first.react (firstHost.spliceStep handle context value))
      (second.react (secondHost.spliceStep handle context value))
  modifyStep : ∀ handle context,
    relation.Relates (first.react (firstHost.modifyStep handle context))
      (second.react (secondHost.modifyStep handle context))

namespace RunRelation.RelatesAnswers

variable {relation} {first : Answers σ ι} {second : Answers τ ι}

theorem call (answers : relation.RelatesAnswers first second) (target : Value ι)
    (arguments : List (Value ι)) :
    relation.RelatesEval (first.call target arguments) (second.call target arguments) := by
  rw [Answers.call, Answers.call]
  cases target.toCallable with
  | ok callable => exact answers.invoke callable arguments
  | error error => exact relation.pure _

theorem lookup (answers : relation.RelatesAnswers first second) (target : Value ι)
    (name : String) :
    relation.RelatesEval (first.lookup target name) (second.lookup target name) := by
  rw [Answers.lookup, Answers.lookup]
  cases target.toContainer with
  | ok container =>
      apply bindExcept (lift (answers.find container name))
      intro found
      cases found <;> exact relation.pure _
  | error error => exact relation.pure _

end RunRelation.RelatesAnswers

/-! ## Steps and pipelines -/

namespace RunRelation

variable {relation} {firstHost : Host σ ι} {first : Answers σ ι} {secondHost : Host τ ι}
  {second : Answers τ ι}

mutual

theorem apply_related (answers : relation.RelatesAnswers first second)
    (hosts : relation.RelatesHosts firstHost first secondHost second) (step : Step ι (Value ι))
    (context : Context ι) :
    relation.Relates (step.apply firstHost first context) (step.apply secondHost second context) := by
  cases step with
  | replace | commit | reset => rw [Step.apply, Step.apply]; exact relation.pure _
  | lookup name =>
      rw [Step.apply, Step.apply]
      exact transform fun rest _ =>
        bindExcept (answers.lookup rest.receiver name) fun _ => relation.pure _
  | member name =>
      rw [Step.apply, Step.apply]
      exact transform fun _ current =>
        bindExcept (answers.lookup current name) fun _ => relation.pure _
  | block body =>
      rw [Step.apply, Step.apply]
      exact transform fun _ _ => bindExcept (lift relation.allocate) fun _ => relation.pure _
  | group body =>
      rw [Step.apply, Step.apply]
      apply transform
      intro rest _
      exact bindExcept (lift (run_related answers hosts body rest.nested)) fun _ => pureExcept _
  | call arguments =>
      rw [Step.apply, Step.apply]
      apply transform
      intro rest current
      apply bindExcept (pureExcept _)
      intro callable
      apply bindExcept (lift (run_related answers hosts arguments rest.nested))
      intro outcome
      exact bindExcept (pureExcept _) fun values => answers.invoke callable values
  | hostMap label handle =>
      rw [Step.apply, Step.apply]
      exact transform fun rest current =>
        bindExcept (hosts.mapStep handle rest current) fun _ => relation.pure _
  | hostSplice label handle =>
      rw [Step.apply, Step.apply]
      exact transform fun rest current => hosts.spliceStep handle rest current
  | hostModify label handle =>
      rw [Step.apply, Step.apply]
      exact hosts.modifyStep handle context

/-- The runs of one pipeline with related answers are related. -/
theorem run_related (answers : relation.RelatesAnswers first second)
    (hosts : relation.RelatesHosts firstHost first secondHost second)
    (steps : List (Step ι (Value ι))) (context : Context ι) :
    relation.Relates (Pipeline.run firstHost first steps context)
      (Pipeline.run secondHost second steps context) := by
  cases steps with
  | nil => rw [Pipeline.run, Pipeline.run]; exact relation.pure _
  | cons step rest =>
      rw [Pipeline.run, Pipeline.run]
      apply relation.bind (apply_related answers hosts step context)
      intro outcome
      rcases outcome with ⟨result, next⟩
      cases result with
      | ok => exact run_related answers hosts rest next
      | error error => exact relation.pure _

end

theorem results_related (answers : relation.RelatesAnswers first second)
    (hosts : relation.RelatesHosts firstHost first secondHost second)
    (pipeline : Pipeline ι (Value ι)) (receiver : Value ι) :
    relation.RelatesEval (Pipeline.results firstHost first pipeline receiver)
      (Pipeline.results secondHost second pipeline receiver) :=
  bindExcept (lift (run_related answers hosts pipeline _)) fun _ => pureExcept _

end RunRelation

end Focal
