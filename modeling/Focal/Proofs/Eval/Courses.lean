import Focal.Proofs.Eval.Failures

/-!
# Courses

A part of a run does one thing after another: it uses the state of the host, makes identities and
closures, and requests other parts of the run with whose results it goes on.  Its course says which,
for every answer it may get (`Activity.course`).  Carrying the course out is the part of the run
itself (`Activity.evaluate_eq`), so what holds of courses holds of runs, and there is one form for
steps, pipelines, calls, lookups and the reactions of the host.

Every part that a course requests has a smaller depth or less left to do
(`Activity.smaller_of_requests`), which gives induction over the parts of a run
(`Activity.induction`).
-/

namespace Focal

variable {σ ι α β : Type}

/-- What a part of a run comes to. -/
def Activity.Result : Activity ι → Type
  | run .. | apply .. => Outcome ι
  | call .. | invoke .. => Except RunError (List (Value ι))
  | lookup .. => Except RunError (Value ι)

/-- The computation of a part of a run. -/
def Activity.evaluate (host : Host σ ι) (depth : Nat) :
    (activity : Activity ι) → Run σ activity.Result
  | run pipeline context => Pipeline.run host (host.answers depth) pipeline context
  | apply step context => step.apply host (host.answers depth) context
  | call target arguments => ((host.answers depth).call target arguments).run
  | invoke callable arguments => ((host.answers depth).invoke callable arguments).run
  | lookup target name => ((host.answers depth).lookup target name).run

/-- What is done one after the other for a result of type `α`. -/
inductive Course (σ ι : Type) (α : Type) where
  /-- The result. -/
  | done (result : α)
  /-- Calls nest too deeply. -/
  | stuck
  /-- Read the state of the host. -/
  | read (next : σ → Course σ ι α)
  /-- Replace the state of the host. -/
  | write (state : σ) (next : Course σ ι α)
  /-- Make a new identity. -/
  | allocate (next : Identity → Course σ ι α)
  /-- Make a closure of a pipeline on a receiver. -/
  | close (body : Pipeline ι (Value ι)) (receiver : Value ι) (next : Value ι → Course σ ι α)
  /-- Have a part of a run carried out, in which calls may nest to a depth. -/
  | request (depth : Nat) (part : Activity ι) (next : part.Result → Course σ ι α)

namespace Course

/-- Carry out a course. -/
def computation (host : Host σ ι) : Course σ ι α → Run σ α
  | done result => pure result
  | stuck => Run.tooDeep
  | read next => do (next (← Run.read)).computation host
  | write state next => do
      Run.write state
      next.computation host
  | allocate next => do (next (← Run.allocate)).computation host
  | close body receiver next => do (next (← Host.close body receiver)).computation host
  | request depth part next => do (next (← part.evaluate host depth)).computation host

/-- The course of a reaction of the host, with a function of its result. -/
def ofReaction (depth : Nat) (finish : α → β) : Reaction σ ι α → Course σ ι β
  | .done result => done (finish result)
  | .read next => read fun state => ofReaction depth finish (next state)
  | .write state next => write state (ofReaction depth finish next)
  | .allocate next => allocate fun identity => ofReaction depth finish (next identity)
  | .call target arguments next =>
      request depth (.call target arguments) fun answer => ofReaction depth finish (next answer)
  | .lookup target name next =>
      request depth (.lookup target name) fun answer => ofReaction depth finish (next answer)

end Course

/-- The outcome of a step that computes values from the current one. -/
def Context.resume (rest : Context ι) : Except RunError (List (Value ι)) → Outcome ι
  | .ok values => (.ok (), rest.extend values)
  | .error error => (.error error, rest)

/-- The answer to a lookup in a container. -/
def Answers.bound (name : String) : Option (Value ι) → Except RunError (Value ι)
  | some value => .ok value
  | none => .error (.unbound name)

/-- The course of a step. -/
def Step.course (host : Host σ ι) (depth : Nat) :
    Step ι (Value ι) → Context ι → Course σ ι (Outcome ι)
  | .replace _ value, context => .done (.ok (), context.replace value)
  | .lookup name, context =>
      .request depth (.lookup context.receiver name) fun answer =>
        .done (context.dropCurrent.resume (answer.map ([·])))
  | .member name, context =>
      .request depth (.lookup context.current name) fun answer =>
        .done (context.dropCurrent.resume (answer.map ([·])))
  | .block body, context =>
      .close body context.receiver fun value => .done (context.dropCurrent.resume (.ok [value]))
  | .group body, context =>
      .request depth (.run body context.nested) fun outcome =>
        .done (context.dropCurrent.resume (Outcome.results outcome))
  | .call arguments, context =>
      match context.current.toCallable with
      | .error error => .done (context.dropCurrent.resume (.error error))
      | .ok callable => .request depth (.run arguments context.nested) fun outcome =>
          match Outcome.results outcome with
          | .error error => .done (context.dropCurrent.resume (.error error))
          | .ok values => .request depth (.invoke callable values) fun answer =>
              .done (context.dropCurrent.resume answer)
  | .commit, context => .done (.ok (), context.commit)
  | .reset, context => .done (.ok (), context.reset)
  | .hostMap _ handle, context =>
      .ofReaction depth (fun answer => context.dropCurrent.resume (answer.map ([·])))
        (host.mapStep handle context.dropCurrent context.current)
  | .hostSplice _ handle, context =>
      .ofReaction depth context.dropCurrent.resume
        (host.spliceStep handle context.dropCurrent context.current)
  | .hostModify _ handle, context => .ofReaction depth id (host.modifyStep handle context)

/-- The course of a pipeline: its first step, and then the others. -/
def Pipeline.course (depth : Nat) :
    Pipeline ι (Value ι) → Context ι → Course σ ι (Outcome ι)
  | [], context => .done (.ok (), context)
  | step :: rest, context => .request depth (.apply step context) fun outcome =>
      match outcome with
      | (.ok (), next) => .request depth (.run rest next) .done
      | (.error error, left) => .done (.error (error.addNote step.note), left)

/-- The course of a call. -/
def Callable.course (host : Host σ ι) :
    Nat → Callable ι → List (Value ι) → Course σ ι (Except RunError (List (Value ι)))
  | 0, _, _ => .stuck
  | depth + 1, .native _ handle, arguments => .ofReaction depth id (host.call handle arguments)
  | depth + 1, .closure body receiver, arguments =>
      .request depth (.run body (Context.fresh (arguments.headD receiver))) fun outcome =>
        .done (Outcome.results outcome)

/-- The course of a lookup in a container. -/
def Container.course (host : Host σ ι) (name : String) :
    Nat → Container ι → Course σ ι (Except RunError (Value ι))
  | _, .bindings entries => .done (Answers.bound name (entries.get? name))
  | 0, .native _ _ => .stuck
  | depth + 1, .native _ handle => .ofReaction depth (Answers.bound name) (host.find handle name)

/-- The course of a part of a run. -/
def Activity.course (host : Host σ ι) (depth : Nat) :
    (activity : Activity ι) → Course σ ι activity.Result
  | run pipeline context => Pipeline.course depth pipeline context
  | apply step context => step.course host depth context
  | call target arguments =>
      match target.toCallable with
      | .ok callable => .request depth (.invoke callable arguments) .done
      | .error error => .done (.error error)
  | invoke callable arguments => callable.course host depth arguments
  | lookup target name =>
      match target.toContainer with
      | .ok container => container.course host name depth
      | .error error => .done (.error error)

/-! ## Courses and computations -/

section Computation

variable {host : Host σ ι} {depth : Nat}

theorem Course.computation_ofReaction (finish : α → β) (reaction : Reaction σ ι α) :
    (ofReaction depth finish reaction).computation host =
      (do return finish (← (host.answers depth).react reaction)) := by
  induction reaction with
  | done result => rfl
  | read next ih | allocate next ih =>
      simp only [ofReaction, computation, Answers.react, ih, bind_assoc]
  | write state next ih => simp only [ofReaction, computation, Answers.react, ih, bind_assoc]
  | call target arguments next ih | lookup target name next ih =>
      rw [ofReaction, computation, Answers.react, bind_assoc]
      exact bind_congr (m := Run σ) ih

/-- A value alone, looked up or computed. -/
theorem Eval.run_singleton (computation : Eval σ (Value ι)) :
    (do return [← computation] : Eval σ (List (Value ι))).run =
      (do return (← computation.run).map ([·])) := by
  rw [ExceptT.run_bind]
  refine bind_congr (m := Run σ) fun result => ?_
  cases result <;> rfl

/-- What goes on from a computation that cannot fail. -/
theorem Eval.run_lift_bind (first : Run σ α) (next : α → Eval σ β) :
    ((liftM first : Eval σ α) >>= next).run = (do (next (← first)).run) := by
  funext world
  change Option.bind (Option.bind (first world) _) _ = Option.bind (first world) _
  cases first world <;> rfl

theorem Context.transform_eq_resume (context : Context ι)
    (compute : Context ι → Value ι → Eval σ (List (Value ι))) :
    context.transform compute = (do
      return context.dropCurrent.resume
        (← (compute context.dropCurrent context.current).run)) := by
  rw [Context.transform]
  refine bind_congr (m := Run σ) fun result => ?_
  cases result <;> rfl

theorem Step.computation_course (step : Step ι (Value ι)) (context : Context ι) :
    (step.course host depth context).computation host =
      step.apply host (host.answers depth) context := by
  cases step with
  | replace label value | commit | reset => rw [Step.apply]; rfl
  | lookup name | member name =>
      rw [Step.apply, Context.transform_eq_resume, Eval.run_singleton, bind_assoc]
      rfl
  | block body => rw [Step.apply]; rfl
  | group body =>
      rw [Step.apply, Context.transform_eq_resume, Eval.run_lift_bind, bind_assoc]
      rfl
  | call arguments =>
      rw [Step.apply, Context.transform_eq_resume, Step.course]
      cases context.current.toCallable with
      | error error => rfl
      | ok callable =>
          change _ = (do
            return context.dropCurrent.resume (← ((liftM (Pipeline.run host (host.answers depth)
              arguments context.dropCurrent.nested) : Eval σ (Outcome ι)) >>= _).run))
          rw [Eval.run_lift_bind, bind_assoc]
          refine bind_congr (m := Run σ) fun (outcome : Outcome ι) => ?_
          rcases outcome with ⟨_ | _, _⟩ <;> rfl
  | hostMap label handle =>
      rw [Step.apply, Context.transform_eq_resume, Eval.run_singleton, bind_assoc]
      exact Course.computation_ofReaction _ _
  | hostSplice label handle =>
      rw [Step.apply, Context.transform_eq_resume]
      exact Course.computation_ofReaction _ _
  | hostModify label handle =>
      rw [Step.apply]
      exact (Course.computation_ofReaction _ _).trans (bind_pure (m := Run σ) _)

theorem Pipeline.computation_course (pipeline : Pipeline ι (Value ι)) (context : Context ι) :
    (Pipeline.course depth pipeline context).computation host =
      Pipeline.run host (host.answers depth) pipeline context := by
  cases pipeline with
  | nil => rw [Pipeline.run]; rfl
  | cons step rest =>
      rw [Pipeline.run]
      refine bind_congr (m := Run σ) fun (outcome : Outcome ι) => ?_
      obtain ⟨_ | _, _⟩ := outcome
      · rfl
      · exact bind_pure (m := Run σ) _

theorem Callable.computation_course (callable : Callable ι) (arguments : List (Value ι)) :
    (callable.course host depth arguments).computation host =
      ((host.answers depth).invoke callable arguments).run := by
  cases depth with
  | zero => rfl
  | succ depth =>
      cases callable with
      | native name handle =>
          exact (Course.computation_ofReaction _ _).trans (bind_pure (m := Run σ) _)
      | closure body receiver => exact (Eval.run_lift_bind _ _).symm

theorem Container.computation_course (container : Container ι) (name : String) :
    (container.course host name depth).computation host =
      (do return Answers.bound name (← (host.answers depth).find container name)) := by
  cases depth <;> cases container <;> first | rfl | exact Course.computation_ofReaction _ _

/-- Carrying out the course of a part of a run is the part of the run. -/
theorem Activity.evaluate_eq (activity : Activity ι) :
    activity.evaluate host depth = (activity.course host depth).computation host := by
  cases activity with
  | run pipeline context => exact (Pipeline.computation_course pipeline context).symm
  | apply step context => exact (step.computation_course context).symm
  | call target arguments =>
      rw [evaluate, course, Answers.call]
      cases target.toCallable with
      | ok callable => exact (bind_pure (m := Run σ) _).symm
      | error error => rfl
  | invoke callable arguments => exact (callable.computation_course arguments).symm
  | lookup target name =>
      rw [evaluate, course, Answers.lookup]
      cases target.toContainer with
      | error error => rfl
      | ok container =>
          refine .trans ?_ (container.computation_course name).symm
          refine (Eval.run_lift_bind _ _).trans (bind_congr (m := Run σ) fun bound => ?_)
          cases bound <;> rfl

end Computation

/-! ## Induction over the parts of a run -/

namespace Course

/-- For some answers that it gets, a course requests a part of a run. -/
inductive Requests : Course σ ι α → Nat → Activity ι → Prop
  | here {depth : Nat} {part : Activity ι} {next : part.Result → Course σ ι α} :
      Requests (.request depth part next) depth part
  | read {next : σ → Course σ ι α} {depth : Nat} {part : Activity ι} (state : σ)
      (requests : Requests (next state) depth part) : Requests (.read next) depth part
  | write {state : σ} {next : Course σ ι α} {depth : Nat} {part : Activity ι}
      (requests : Requests next depth part) : Requests (.write state next) depth part
  | allocate {next : Identity → Course σ ι α} {depth : Nat} {part : Activity ι}
      (identity : Identity) (requests : Requests (next identity) depth part) :
      Requests (.allocate next) depth part
  | close {body : Pipeline ι (Value ι)} {receiver : Value ι} {next : Value ι → Course σ ι α}
      {depth : Nat} {part : Activity ι} (value : Value ι)
      (requests : Requests (next value) depth part) :
      Requests (.close body receiver next) depth part
  | behind {inner depth : Nat} {earlier part : Activity ι}
      {next : earlier.Result → Course σ ι α} (answer : earlier.Result)
      (requests : Requests (next answer) depth part) :
      Requests (.request inner earlier next) depth part

/-- A reaction requests calls and lookups alone, in which calls may nest to its depth. -/
theorem requests_ofReaction {depth inner : Nat} {finish : α → β} {reaction : Reaction σ ι α}
    {part : Activity ι} (requests : Requests (ofReaction depth finish reaction) inner part) :
    inner = depth ∧ ((∃ target arguments, part = .call target arguments) ∨
      ∃ target name, part = .lookup target name) := by
  induction reaction with
  | done result => cases requests
  | read next ih => cases requests with | read state requests => exact ih state requests
  | write state next ih => cases requests with | write requests => exact ih requests
  | allocate next ih =>
      cases requests with | allocate identity requests => exact ih identity requests
  | call target arguments next ih =>
      cases requests with
      | here => exact ⟨rfl, .inl ⟨target, arguments, rfl⟩⟩
      | behind answer requests => exact ih answer requests
  | lookup target name next ih =>
      cases requests with
      | here => exact ⟨rfl, .inr ⟨target, name, rfl⟩⟩
      | behind answer requests => exact ih answer requests

end Course

/-- How much a part of a run has left to do before calls nest deeper. -/
noncomputable def Activity.weight : Activity ι → Nat
  | run pipeline _ => 2 + sizeOf pipeline
  | apply step _ => 2 + sizeOf step
  | call .. => 1
  | invoke .. | lookup .. => 0

/-- A part of a run has a smaller depth than another one, or less to do. -/
def Activity.Smaller (inner : Nat) (part : Activity ι) (depth : Nat) (activity : Activity ι) :
    Prop :=
  inner < depth ∨ inner = depth ∧ part.weight < activity.weight

section Smaller

variable {host : Host σ ι} {depth inner : Nat} {part : Activity ι}

theorem Activity.smaller_of_ofReaction {finish : α → β} {reaction : Reaction σ ι α}
    {activity : Activity ι} (larger : 1 < activity.weight)
    (requests : Course.Requests (.ofReaction depth finish reaction) inner part) :
    Smaller inner part depth activity := by
  obtain ⟨rfl, ⟨_, _, rfl⟩ | ⟨_, _, rfl⟩⟩ := Course.requests_ofReaction requests
  · exact .inr ⟨rfl, larger⟩
  · exact .inr ⟨rfl, Nat.zero_lt_of_lt larger⟩

theorem Pipeline.smaller_of_requests {pipeline : Pipeline ι (Value ι)} {context : Context ι}
    (requests : (Pipeline.course depth pipeline context : Course σ ι _).Requests inner part) :
    Activity.Smaller inner part depth (.run pipeline context) := by
  cases pipeline with
  | nil => cases requests
  | cons step rest =>
      cases requests with
      | here => exact .inr ⟨rfl, by simp only [Activity.weight, List.cons.sizeOf_spec]; omega⟩
      | behind outcome requests =>
          obtain ⟨_ | _, next⟩ : Outcome ι := outcome
          · cases requests
          · cases requests with
            | here =>
                exact .inr ⟨rfl, by simp only [Activity.weight, List.cons.sizeOf_spec]; omega⟩
            | behind outcome requests => cases requests

theorem Step.smaller_of_requests {step : Step ι (Value ι)} {context : Context ι}
    (requests : (step.course host depth context).Requests inner part) :
    Activity.Smaller inner part depth (.apply step context) := by
  cases step with
  | replace label value | commit | reset => cases requests
  | lookup name | member name =>
      cases requests with
      | here => exact .inr ⟨rfl, by simp only [Activity.weight]; omega⟩
      | behind answer requests => cases requests
  | block body => cases requests with | close value requests => cases requests
  | group body =>
      cases requests with
      | here => exact .inr ⟨rfl, by simp only [Activity.weight, group.sizeOf_spec]; omega⟩
      | behind answer requests => cases requests
  | call arguments =>
      rw [course] at requests
      split at requests
      · cases requests
      · cases requests with
        | here => exact .inr ⟨rfl, by simp only [Activity.weight, call.sizeOf_spec]; omega⟩
        | behind outcome requests =>
            obtain ⟨_ | _, last⟩ : Outcome ι := outcome
            · cases requests
            · cases requests with
              | here => exact .inr ⟨rfl, by simp only [Activity.weight]; omega⟩
              | behind answer requests => cases requests
  | hostMap label handle | hostSplice label handle | hostModify label handle =>
      exact Activity.smaller_of_ofReaction (by simp only [Activity.weight]; omega) requests

/-- Whatever a call requests is one level of depth further down. -/
theorem Callable.depth_of_requests {callable : Callable ι} {arguments : List (Value ι)}
    (requests : (callable.course host depth arguments).Requests inner part) : inner < depth := by
  cases depth with
  | zero => cases requests
  | succ depth =>
      cases callable with
      | native name handle =>
          obtain ⟨rfl, -⟩ := Course.requests_ofReaction requests
          exact Nat.lt_succ_self _
      | closure body receiver =>
          cases requests with
          | here => exact Nat.lt_succ_self _
          | behind answer requests => cases requests

/-- Whatever a lookup requests is one level of depth further down. -/
theorem Container.depth_of_requests {container : Container ι} {name : String}
    (requests : (container.course host name depth).Requests inner part) : inner < depth := by
  cases container with
  | bindings entries => cases depth <;> cases requests
  | native _ handle =>
      cases depth with
      | zero => cases requests
      | succ depth =>
          obtain ⟨rfl, -⟩ := Course.requests_ofReaction requests
          exact Nat.lt_succ_self _

/-- Whatever a part of a run requests is smaller. -/
theorem Activity.smaller_of_requests {activity : Activity ι}
    (requests : (activity.course host depth).Requests inner part) :
    Smaller inner part depth activity := by
  cases activity with
  | run pipeline context => exact Pipeline.smaller_of_requests requests
  | apply step context => exact Step.smaller_of_requests requests
  | call target arguments =>
      rw [course] at requests
      split at requests
      · cases requests with
        | here => exact .inr ⟨rfl, Nat.zero_lt_one⟩
        | behind answer requests => cases requests
      · cases requests
  | invoke callable arguments => exact .inl (Callable.depth_of_requests requests)
  | lookup target name =>
      rw [course] at requests
      split at requests
      · exact .inl (Container.depth_of_requests requests)
      · cases requests

end Smaller

/-- What holds of a part of a run whenever it holds of all parts that this one requests holds of
every part. -/
theorem Activity.induction (host : Host σ ι) {Holds : Nat → Activity ι → Prop}
    (parts : ∀ depth activity, (∀ inner part,
      (activity.course host depth).Requests inner part → Holds inner part) → Holds depth activity)
    (depth : Nat) (activity : Activity ι) : Holds depth activity :=
  parts depth activity fun inner part requests =>
    have := Activity.smaller_of_requests requests
    Activity.induction host parts inner part
termination_by (depth, activity.weight)
decreasing_by
  rcases Activity.smaller_of_requests requests with deeper | ⟨rfl, smaller⟩
  · exact Prod.Lex.left _ _ deeper
  · exact Prod.Lex.right _ smaller

end Focal
