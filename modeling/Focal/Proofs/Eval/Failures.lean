import Focal.Proofs.Eval.Steps

/-!
# Where an error comes from

An error starts in one operation (`Breaks`): a value is used as something that it is not, a
container does not bind a name, or the host fails.  From there it leaves one pipeline after the
other, those of groups, arguments and closures, whether a script or the host called them, until it
leaves the run.  `Fails` follows it and keeps the pipelines that were active, the innermost one
first, each with the step that it was running.

A run fails if and only if an error gets out in this way (`run_error_iff`).  It is the error of the
operation with one note for each active pipeline, in their order, and in none of these pipelines is
a step applied behind the one that was running.
-/

namespace Focal

variable {σ ι : Type}

/-! ## Notes -/

/-- An error with notes behind those it has. -/
def RunError.addNotes (error : RunError) (notes : List String) : RunError :=
  { error with notes := error.notes ++ notes }

theorem RunError.addNotes_nil (error : RunError) : error.addNotes [] = error := by
  rw [addNotes, List.append_nil]

theorem RunError.addNotes_concat (error : RunError) (notes : List String) (note : String) :
    error.addNotes (notes ++ [note]) = (error.addNotes notes).addNote note := by
  rw [addNotes, addNotes, addNote, List.append_assoc]

/-! ## What may fail -/

/-- A part of a run. -/
inductive Activity (ι : Type) where
  /-- A pipeline runs from a context. -/
  | run (pipeline : Pipeline ι (Value ι)) (context : Context ι)
  /-- A step is applied to a context. -/
  | apply (step : Step ι (Value ι)) (context : Context ι)
  /-- A value is called. -/
  | call (target : Value ι) (arguments : List (Value ι))
  /-- A callable is called. -/
  | invoke (callable : Callable ι) (arguments : List (Value ι))
  /-- A name is looked up on a value. -/
  | lookup (target : Value ι) (name : String)

/-- A part of a run fails with an error and leaves a world. -/
def Activity.EndsIn (host : Host σ ι) (depth : Nat) :
    Activity ι → World σ → RunError → World σ → Prop
  | run pipeline context, world, error, after => ∃ left,
      Pipeline.run host (host.answers depth) pipeline context world =
        some ((.error error, left), after)
  | apply step context, world, error, after => ∃ left,
      step.apply host (host.answers depth) context world = some ((.error error, left), after)
  | call target arguments, world, error, after =>
      (host.answers depth).call target arguments world = some (.error error, after)
  | invoke callable arguments, world, error, after =>
      (host.answers depth).invoke callable arguments world = some (.error error, after)
  | lookup target name, world, error, after =>
      (host.answers depth).lookup target name world = some (.error error, after)

/-- While the host reacts from a world, it makes a request in another one. -/
inductive Asks {α : Type} (answers : Answers σ ι) :
    Reaction σ ι α → World σ → Activity ι → World σ → Prop
  | read {next : σ → Reaction σ ι α} {world made : World σ} {request : Activity ι}
      (asks : Asks answers (next world.host) world request made) :
      Asks answers (.read next) world request made
  | write {state : σ} {next : Reaction σ ι α} {world made : World σ} {request : Activity ι}
      (asks : Asks answers next { world with host := state } request made) :
      Asks answers (.write state next) world request made
  | allocate {next : Identity → Reaction σ ι α} {world made : World σ} {request : Activity ι}
      (asks : Asks answers (next world.allocated)
        { world with allocated := world.allocated + 1 } request made) :
      Asks answers (.allocate next) world request made
  | call {target : Value ι} {arguments : List (Value ι)}
      {next : Except RunError (List (Value ι)) → Reaction σ ι α} {world : World σ} :
      Asks answers (.call target arguments next) world (.call target arguments) world
  | lookup {target : Value ι} {name : String}
      {next : Except RunError (Value ι) → Reaction σ ι α} {world : World σ} :
      Asks answers (.lookup target name next) world (.lookup target name) world
  | afterCall {target : Value ι} {arguments : List (Value ι)}
      {next : Except RunError (List (Value ι)) → Reaction σ ι α} {world between made : World σ}
      {answer : Except RunError (List (Value ι))} {request : Activity ι}
      (called : answers.call target arguments world = some (answer, between))
      (asks : Asks answers (next answer) between request made) :
      Asks answers (.call target arguments next) world request made
  | afterLookup {target : Value ι} {name : String}
      {next : Except RunError (Value ι) → Reaction σ ι α} {world between made : World σ}
      {answer : Except RunError (Value ι)} {request : Activity ι}
      (found : answers.lookup target name world = some (answer, between))
      (asks : Asks answers (next answer) between request made) :
      Asks answers (.lookup target name next) world request made

/-- A part of a run is a reaction of the host, whose requests are answered to a depth. -/
inductive Reacts (host : Host σ ι) : Nat → Activity ι → Nat → {α : Type} → Reaction σ ι α → Prop
  | call {depth : Nat} {name : String} {handle : ι} {arguments : List (Value ι)} :
      Reacts host (depth + 1) (.invoke (.native name handle) arguments) depth
        (host.call handle arguments)
  | mapStep {depth : Nat} {label : String} {handle : ι} {context : Context ι} :
      Reacts host depth (.apply (.hostMap label handle) context) depth
        (host.mapStep handle context.dropCurrent context.current)
  | spliceStep {depth : Nat} {label : String} {handle : ι} {context : Context ι} :
      Reacts host depth (.apply (.hostSplice label handle) context) depth
        (host.spliceStep handle context.dropCurrent context.current)
  | modifyStep {depth : Nat} {label : String} {handle : ι} {context : Context ι} :
      Reacts host depth (.apply (.hostModify label handle) context) depth
        (host.modifyStep handle context)

/-- A request that the host makes fails with an error. -/
def RequestFails {α : Type} (host : Host σ ι) (depth : Nat) (reaction : Reaction σ ι α)
    (world : World σ) (error : RunError) : Prop :=
  ∃ request made failed, Asks (host.answers depth) reaction world request made ∧
    request.EndsIn host depth made error failed

/-- An operation fails by itself: a value cannot be called, a value holds no names, a container does
not bind a name, or the host fails with an error that is not the one of a request it made. -/
inductive Breaks (host : Host σ ι) : Nat → Activity ι → World σ → RunError → World σ → Prop
  | callee {depth : Nat} {arguments : Pipeline ι (Value ι)} {context : Context ι}
      {world : World σ} {error : RunError} (lacks : context.current.toCallable = .error error) :
      Breaks host depth (.apply (.call arguments) context) world error world
  | target {depth : Nat} {target : Value ι} {arguments : List (Value ι)} {world : World σ}
      {error : RunError} (lacks : target.toCallable = .error error) :
      Breaks host depth (.call target arguments) world error world
  | container {depth : Nat} {target : Value ι} {name : String} {world : World σ}
      {error : RunError} (lacks : target.toContainer = .error error) :
      Breaks host depth (.lookup target name) world error world
  | unbound {depth : Nat} {target : Value ι} {name : String} {world after : World σ}
      {container : Container ι} (holds : target.toContainer = .ok container)
      (missing : (host.answers depth).find container name world = some (none, after)) :
      Breaks host depth (.lookup target name) world (.unbound name) after
  | host {α : Type} {depth inner : Nat} {activity : Activity ι} {reaction : Reaction σ ι α}
      {world after : World σ} {error : RunError} (reacts : Reacts host depth activity inner reaction)
      (ends : activity.EndsIn host depth world error after)
      (own : ¬ RequestFails host inner reaction world error) :
      Breaks host depth activity world error after

/-! ## The way of an error -/

/-- A part of a run comes to another one inside it, and fails if that one does. -/
inductive Enters (host : Host σ ι) :
    Nat → Activity ι → World σ → Nat → Activity ι → World σ → Prop
  | lookup {depth : Nat} {name : String} {context : Context ι} {world : World σ} :
      Enters host depth (.apply (.lookup name) context) world
        depth (.lookup context.receiver name) world
  | member {depth : Nat} {name : String} {context : Context ι} {world : World σ} :
      Enters host depth (.apply (.member name) context) world
        depth (.lookup context.current name) world
  | group {depth : Nat} {body : Pipeline ι (Value ι)} {context : Context ι} {world : World σ} :
      Enters host depth (.apply (.group body) context) world
        depth (.run body (Context.fresh context.receiver)) world
  | arguments {depth : Nat} {arguments : Pipeline ι (Value ι)} {context : Context ι}
      {callable : Callable ι} {world : World σ}
      (isCallable : context.current.toCallable = .ok callable) :
      Enters host depth (.apply (.call arguments) context) world
        depth (.run arguments (Context.fresh context.receiver)) world
  /-- The arguments have been run, and their results are what the callable is called with. -/
  | callee {depth : Nat} {arguments : Pipeline ι (Value ι)} {context last : Context ι}
      {callable : Callable ι} {world between : World σ}
      (isCallable : context.current.toCallable = .ok callable)
      (reaches : Reaches host (host.answers depth) arguments (Context.fresh context.receiver) world
        last between) :
      Enters host depth (.apply (.call arguments) context) world
        depth (.invoke callable last.results) between
  | target {depth : Nat} {target : Value ι} {arguments : List (Value ι)} {callable : Callable ι}
      {world : World σ} (isCallable : target.toCallable = .ok callable) :
      Enters host depth (.call target arguments) world depth (.invoke callable arguments) world
  | closure {depth : Nat} {body : Pipeline ι (Value ι)} {receiver : Value ι}
      {arguments : List (Value ι)} {world : World σ} :
      Enters host (depth + 1) (.invoke (.closure body receiver) arguments) world
        depth (.run body (Context.fresh (arguments.headD receiver))) world

/-- A pipeline that is active: the steps in front have succeeded, one step is running, and the
others are to come. -/
structure Frame (σ ι : Type) where
  /-- How deep calls in the pipeline may nest. -/
  depth : Nat
  front : Pipeline ι (Value ι)
  step : Step ι (Value ι)
  rest : Pipeline ι (Value ι)
  /-- The context that the pipeline started from. -/
  context : Context ι
  /-- The world that the pipeline started in. -/
  world : World σ

/-- The note of the step that is running. -/
def Frame.note (frame : Frame σ ι) : String :=
  "while running `" ++ frame.step.label ++ "`"

/-- A part of a run fails because an operation in it does.  The pipelines that are active between
the two are listed, the innermost one first. -/
inductive Fails (host : Host σ ι) :
    Nat → Activity ι → World σ → List (Frame σ ι) → RunError → World σ → Prop
  /-- It is the operation itself. -/
  | here {depth : Nat} {activity : Activity ι} {world after : World σ} {origin : RunError}
      (breaks : Breaks host depth activity world origin after) :
      Fails host depth activity world [] origin after
  /-- It is a pipeline, in which a step fails. -/
  | run {depth : Nat} {front rest : Pipeline ι (Value ι)} {step : Step ι (Value ι)}
      {context middle : Context ι} {world between after : World σ} {active : List (Frame σ ι)}
      {origin : RunError}
      (reaches : Reaches host (host.answers depth) front context world middle between)
      (fails : Fails host depth (.apply step middle) between active origin after) :
      Fails host depth (.run (front ++ step :: rest) context) world
        (active ++ [⟨depth, front, step, rest, context, world⟩]) origin after
  /-- Another part inside it fails. -/
  | inside {depth inner : Nat} {activity part : Activity ι} {world made after : World σ}
      {active : List (Frame σ ι)} {origin : RunError}
      (enters : Enters host depth activity world inner part made)
      (fails : Fails host inner part made active origin after) :
      Fails host depth activity world active origin after
  /-- It is a reaction of the host, which fails with the error of a request. -/
  | request {α : Type} {depth inner : Nat} {activity request : Activity ι}
      {reaction : Reaction σ ι α} {world made failed after : World σ} {active : List (Frame σ ι)}
      {origin : RunError} (reacts : Reacts host depth activity inner reaction)
      (asks : Asks (host.answers inner) reaction world request made)
      (fails : Fails host inner request made active origin failed)
      (ends : activity.EndsIn host depth world (origin.addNotes (active.map Frame.note)) after) :
      Fails host depth activity world active origin after

variable {host : Host σ ι} {depth inner : Nat} {activity part : Activity ι}
  {world made after : World σ} {error origin : RunError} {active : List (Frame σ ι)}

/-! ## One level -/

/-- A step that computes fails if the computation does. -/
theorem Step.endsIn_iff_of_compute? {step : Step ι (Value ι)} {context : Context ι}
    {compute : Context ι → Value ι → Eval σ (List (Value ι))}
    (computes : step.compute? host (host.answers depth) = some compute) :
    (Activity.apply step context).EndsIn host depth world error after ↔
      compute context.dropCurrent context.current world = some (.error error, after) := by
  simp only [Activity.EndsIn, Step.apply_of_compute? host (host.answers depth) context computes,
    Context.transform_eq_error_iff]
  constructor
  · rintro ⟨_, failed, _⟩
    exact failed
  · intro failed
    exact ⟨_, failed, rfl⟩

theorem Pipeline.endsIn_iff {pipeline : Pipeline ι (Value ι)} {receiver : Value ι} :
    (Activity.run pipeline (Context.fresh receiver)).EndsIn host depth world error after ↔
      Pipeline.resultsFrom host (host.answers depth) pipeline (Context.fresh receiver) world =
        some (.error error, after) :=
  Pipeline.results_eq_error_iff.symm

/-- A value alone, looked up or computed, fails only if its computation does. -/
theorem Eval.singleton_eq_error_iff {computation : Eval σ (Value ι)} :
    (do return [← computation] : Eval σ (List (Value ι))) world = some (.error error, after) ↔
      computation world = some (.error error, after) := by
  rw [Eval.bind_eq_error_iff]
  constructor
  · rintro (failed | ⟨_, _, _, failed⟩)
    · exact failed
    · cases failed
  · exact .inl

/-- A lookup fails if the value holds no names, or does not bind this one. -/
theorem Answers.lookup_eq_error_iff {answers : Answers σ ι} {target : Value ι} {name : String} :
    answers.lookup target name world = some (.error error, after) ↔
      (target.toContainer = .error error ∧ after = world) ∨
        ∃ container, target.toContainer = .ok container ∧
          answers.find container name world = some (none, after) ∧ error = .unbound name := by
  rw [Answers.lookup]
  cases holds : target.toContainer with
  | error lack =>
      constructor
      · intro failed
        obtain ⟨sameError, rfl⟩ := Prod.mk.inj (Option.some.inj failed)
        exact .inl ⟨congrArg Except.error (Except.error.inj sameError), rfl⟩
      · rintro (⟨sameError, rfl⟩ | ⟨_, isOk, _⟩)
        · obtain rfl := Except.error.inj sameError
          rfl
        · cases isOk
  | ok container =>
      refine Eval.lift_bind_eq_error_iff.trans ?_
      constructor
      · rintro ⟨bound, between, found, followed⟩
        cases bound with
        | some value => cases followed
        | none =>
            cases followed
            exact .inr ⟨container, rfl, found, rfl⟩
      · rintro (⟨isError, _⟩ | ⟨_, isOk, missing, rfl⟩)
        · cases isError
        · cases isOk
          exact ⟨none, after, missing, rfl⟩

theorem Enters.endsIn (enters : Enters host depth activity world inner part made)
    (ends : part.EndsIn host inner made error after) :
    activity.EndsIn host depth world error after := by
  cases enters with
  | lookup => exact (Step.endsIn_iff_of_compute? rfl).mpr (Eval.singleton_eq_error_iff.mpr ends)
  | member => exact (Step.endsIn_iff_of_compute? rfl).mpr (Eval.singleton_eq_error_iff.mpr ends)
  | group => exact (Step.endsIn_iff_of_compute? rfl).mpr (Pipeline.endsIn_iff.mp ends)
  | arguments isCallable =>
      refine (Step.endsIn_iff_of_compute? rfl).mpr ?_
      rw [isCallable]
      exact Eval.bind_eq_error_iff.mpr (.inr ⟨_, world, rfl,
        Eval.bind_eq_error_iff.mpr (.inl (Pipeline.endsIn_iff.mp ends))⟩)
  | callee isCallable reaches =>
      refine (Step.endsIn_iff_of_compute? rfl).mpr ?_
      rw [isCallable]
      exact Eval.bind_eq_error_iff.mpr (.inr ⟨_, world, rfl,
        Eval.bind_eq_error_iff.mpr (.inr ⟨_, made,
          Pipeline.results_eq_ok_iff.mpr ⟨_, reaches, rfl⟩, ends⟩)⟩)
  | target isCallable =>
      rw [Activity.EndsIn, Answers.call, isCallable]
      exact ends
  | closure => exact Pipeline.endsIn_iff.mp ends

theorem Breaks.endsIn (breaks : Breaks host depth activity world error after) :
    activity.EndsIn host depth world error after := by
  cases breaks with
  | callee lacks =>
      refine (Step.endsIn_iff_of_compute? rfl).mpr ?_
      rw [lacks]
      rfl
  | target lacks =>
      rw [Activity.EndsIn, Answers.call, lacks]
      rfl
  | container lacks => exact Answers.lookup_eq_error_iff.mpr (.inl ⟨lacks, rfl⟩)
  | unbound holds missing => exact Answers.lookup_eq_error_iff.mpr (.inr ⟨_, holds, missing, rfl⟩)
  | host _ ends _ => exact ends

/-- What makes one part of a run fail: it is an operation that fails by itself, another part that it
comes to fails, it is a reaction of which a request fails, or it is a pipeline and a step fails. -/
inductive Stumbles (host : Host σ ι) :
    Nat → Activity ι → World σ → RunError → World σ → Prop
  | breaks {depth : Nat} {activity : Activity ι} {world after : World σ} {error : RunError}
      (breaks : Breaks host depth activity world error after) :
      Stumbles host depth activity world error after
  | inside {depth inner : Nat} {activity part : Activity ι} {world made after : World σ}
      {error : RunError} (enters : Enters host depth activity world inner part made)
      (ends : part.EndsIn host inner made error after) :
      Stumbles host depth activity world error after
  | request {α : Type} {depth inner : Nat} {activity : Activity ι} {reaction : Reaction σ ι α}
      {world after : World σ} {error : RunError}
      (reacts : Reacts host depth activity inner reaction)
      (passed : RequestFails host inner reaction world error) :
      Stumbles host depth activity world error after
  | step {depth : Nat} {front rest : Pipeline ι (Value ι)} {step : Step ι (Value ι)}
      {context middle : Context ι} {world between after : World σ} {error : RunError}
      (reaches : Reaches host (host.answers depth) front context world middle between)
      (ends : (Activity.apply step middle).EndsIn host depth between error after) :
      Stumbles host depth (.run (front ++ step :: rest) context) world (error.addNote step.note)
        after

theorem Reacts.stumbles {α : Type} {reaction : Reaction σ ι α}
    (reacts : Reacts host depth activity inner reaction)
    (ends : activity.EndsIn host depth world error after) :
    Stumbles host depth activity world error after := by
  by_cases passed : RequestFails host inner reaction world error
  · exact .request reacts passed
  · exact .breaks (.host reacts ends passed)

theorem Step.stumbles {step : Step ι (Value ι)} {context : Context ι}
    (ends : (Activity.apply step context).EndsIn host depth world error after) :
    Stumbles host depth (.apply step context) world error after := by
  cases step with
  | replace label value | commit | reset =>
      obtain ⟨left, applied⟩ := ends
      rw [Step.apply] at applied
      cases applied
  | lookup name =>
      rw [Step.endsIn_iff_of_compute? rfl, Eval.singleton_eq_error_iff] at ends
      exact .inside .lookup ends
  | member name =>
      rw [Step.endsIn_iff_of_compute? rfl, Eval.singleton_eq_error_iff] at ends
      exact .inside .member ends
  | block body =>
      rw [Step.endsIn_iff_of_compute? rfl] at ends
      cases ends
  | group body =>
      rw [Step.endsIn_iff_of_compute? rfl] at ends
      exact .inside .group (Pipeline.endsIn_iff.mpr ends)
  | call arguments =>
      rw [Step.endsIn_iff_of_compute? rfl] at ends
      cases isCallable : context.current.toCallable with
      | error lack =>
          rw [isCallable] at ends
          cases ends
          exact .breaks (.callee isCallable)
      | ok callable =>
          rw [isCallable] at ends
          obtain isError | ⟨_, _, isOk, followed⟩ := Eval.bind_eq_error_iff.mp ends
          · cases isError
          · cases isOk
            obtain failed | ⟨values, between, ran, invoked⟩ := Eval.bind_eq_error_iff.mp followed
            · exact .inside (.arguments isCallable) (Pipeline.endsIn_iff.mpr failed)
            · obtain ⟨last, reaches, rfl⟩ := Pipeline.results_eq_ok_iff.mp ran
              exact .inside (.callee isCallable reaches) invoked
  | hostMap label handle => exact Reacts.mapStep.stumbles ends
  | hostSplice label handle => exact Reacts.spliceStep.stumbles ends
  | hostModify label handle => exact Reacts.modifyStep.stumbles ends

theorem Activity.EndsIn.stumbles (ends : activity.EndsIn host depth world error after) :
    Stumbles host depth activity world error after := by
  cases activity with
  | run pipeline context =>
      obtain ⟨left, ran⟩ := ends
      obtain ⟨front, step, rest, middle, between, own, rfl, reaches, failed, rfl⟩ :=
        Pipeline.run_eq_error_iff.mp ran
      exact .step reaches ⟨left, failed⟩
  | apply step context => exact Step.stumbles ends
  | call target arguments =>
      rw [EndsIn, Answers.call] at ends
      cases isCallable : target.toCallable with
      | error lack =>
          rw [isCallable] at ends
          cases ends
          exact .breaks (.target isCallable)
      | ok callable =>
          rw [isCallable] at ends
          exact .inside (.target isCallable) ends
  | invoke callable arguments =>
      cases depth with
      | zero => cases ends
      | succ depth =>
          cases callable with
          | native name handle => exact Reacts.call.stumbles ends
          | closure body receiver => exact .inside .closure (Pipeline.endsIn_iff.mpr ends)
  | lookup target name =>
      obtain ⟨lacks, rfl⟩ | ⟨container, holds, missing, rfl⟩ := Answers.lookup_eq_error_iff.mp ends
      · exact .breaks (.container lacks)
      · exact .breaks (.unbound holds missing)

/-! ## From the operation to the run -/

theorem Fails.endsIn (fails : Fails host depth activity world active origin after) :
    activity.EndsIn host depth world (origin.addNotes (active.map Frame.note)) after := by
  induction fails with
  | here breaks =>
      rw [List.map_nil, RunError.addNotes_nil]
      exact breaks.endsIn
  | run reaches _ ih =>
      obtain ⟨left, failed⟩ := ih
      refine ⟨left, Pipeline.run_eq_error_iff.mpr ⟨_, _, _, _, _, _, rfl, reaches, failed, ?_⟩⟩
      rw [List.map_append]
      exact RunError.addNotes_concat _ _ _
  | inside enters _ ih => exact enters.endsIn ih
  | request _ _ _ ends _ => exact ends

/-- The run of an active pipeline fails with an error, whatever the steps behind the one that is
running are. -/
def Frame.StopsWith (frame : Frame σ ι) (host : Host σ ι) (error : RunError) : Prop :=
  ∃ left after, ∀ others,
    Pipeline.run host (host.answers frame.depth) (frame.front ++ frame.step :: others)
      frame.context frame.world = some ((.error error, left), after)

/-- The error that leaves an active pipeline has the notes of those inside it and its own. -/
theorem Fails.stopsWith (fails : Fails host depth activity world active origin after)
    {within : List (Frame σ ι)} {frame : Frame σ ι} (upTo : within ++ [frame] <+: active) :
    frame.StopsWith host (origin.addNotes ((within ++ [frame]).map Frame.note)) := by
  induction fails with
  | here breaks => exact absurd (List.prefix_nil.mp upTo) (by simp)
  | run reaches fails ih =>
      obtain isLast | earlier := List.prefix_concat_iff.mp upTo
      · obtain ⟨rfl, isFrame⟩ := List.append_inj' isLast rfl
        obtain rfl := List.head_eq_of_cons_eq isFrame
        obtain ⟨left, failed⟩ := fails.endsIn
        refine ⟨left, _, fun others => Pipeline.run_eq_error_iff.mpr
          ⟨_, _, others, _, _, _, rfl, reaches, failed, ?_⟩⟩
        rw [List.map_append]
        exact RunError.addNotes_concat _ _ _
      · exact ih earlier
  | inside _ _ ih => exact ih upTo
  | request _ _ _ _ ih => exact ih upTo

/-! ## From the run to the operation -/

/-- Whenever a part of a run fails, an operation in it does. -/
def Explained (host : Host σ ι) (depth : Nat) (activity : Activity ι) : Prop :=
  ∀ world error after, activity.EndsIn host depth world error after →
    ∃ active origin, Fails host depth activity world active origin after ∧
      error = origin.addNotes (active.map Frame.note)

/-- A part of a run is explained if those are that it comes to or requests. -/
theorem Explained.of_parts
    (steps : ∀ pipeline context, activity = .run pipeline context → ∀ step ∈ pipeline,
      ∀ middle, Explained host depth (.apply step middle))
    (parts : ∀ {world inner part made}, Enters host depth activity world inner part made →
      Explained host inner part)
    (requests : ∀ {α : Type} {inner : Nat} {reaction : Reaction σ ι α} {world request made},
      Reacts host depth activity inner reaction →
        Asks (host.answers inner) reaction world request made → Explained host inner request) :
    Explained host depth activity := by
  intro world error after ends
  cases ends.stumbles with
  | breaks breaks => exact ⟨[], error, .here breaks, (RunError.addNotes_nil error).symm⟩
  | inside enters partEnds =>
      obtain ⟨active, origin, fails, errorEq⟩ := parts enters _ _ _ partEnds
      exact ⟨active, origin, .inside enters fails, errorEq⟩
  | request reacts passed =>
      obtain ⟨request, made, failed, asks, requestEnds⟩ := passed
      obtain ⟨active, origin, fails, rfl⟩ := requests reacts asks _ _ _ requestEnds
      exact ⟨active, origin, .request reacts asks fails ends, rfl⟩
  | step reaches stepEnds =>
      obtain ⟨active, origin, fails, rfl⟩ := steps _ _ rfl _ (by simp) _ _ _ _ stepEnds
      refine ⟨_, origin, .run reaches fails, ?_⟩
      rw [List.map_append]
      exact (RunError.addNotes_concat _ _ _).symm

theorem Explained.lookup (target : Value ι) (name : String) :
    Explained host depth (.lookup target name) := by
  refine .of_parts (fun _ _ isRun => by cases isRun) ?_ ?_
  · intro _ _ _ _ enters
    cases enters
  · intro _ _ _ _ _ _ reacts
    cases reacts

theorem Explained.run {pipeline : Pipeline ι (Value ι)}
    (steps : ∀ step ∈ pipeline, ∀ context, Explained host depth (.apply step context))
    (context : Context ι) : Explained host depth (.run pipeline context) := by
  refine .of_parts (fun _ _ isRun => ?_) ?_ ?_
  · obtain ⟨rfl, -⟩ := Activity.run.inj isRun
    exact steps
  · intro _ _ _ _ enters
    cases enters
  · intro _ _ _ _ _ _ reacts
    cases reacts

/-- The calls of all callables are explained. -/
def CallsExplained (host : Host σ ι) (depth : Nat) : Prop :=
  ∀ callable arguments, Explained host depth (.invoke callable arguments)

theorem Explained.call (calls : CallsExplained host depth) (target : Value ι)
    (arguments : List (Value ι)) : Explained host depth (.call target arguments) := by
  refine .of_parts (fun _ _ isRun => by cases isRun) ?_ ?_
  · intro _ _ _ _ enters
    cases enters with
    | target _ => exact calls _ arguments
  · intro _ _ _ _ _ _ reacts
    cases reacts

theorem Explained.of_asks {α : Type} {reaction : Reaction σ ι α} {request : Activity ι}
    (calls : CallsExplained host depth)
    (asks : Asks (host.answers depth) reaction world request made) :
    Explained host depth request := by
  induction asks with
  | read _ ih => exact ih
  | write _ ih => exact ih
  | allocate _ ih => exact ih
  | call => exact .call calls _ _
  | lookup => exact .lookup _ _
  | afterCall _ _ ih => exact ih
  | afterLookup _ _ ih => exact ih

mutual

theorem Explained.apply (calls : CallsExplained host depth) (step : Step ι (Value ι))
    (context : Context ι) : Explained host depth (.apply step context) := by
  refine .of_parts (fun _ _ isRun => by cases isRun) ?_ ?_
  · intro _ _ _ _ enters
    cases step with
    | group body =>
        cases enters
        exact .run (Explained.steps calls body) _
    | call arguments =>
        cases enters with
        | arguments _ => exact .run (Explained.steps calls arguments) _
        | callee _ _ => exact calls _ _
    | lookup name | member name =>
        cases enters
        exact .lookup _ name
    | _ => cases enters
  · intro _ _ _ _ _ _ reacts asks
    cases reacts <;> exact .of_asks calls asks

theorem Explained.steps (calls : CallsExplained host depth)
    (pipeline : List (Step ι (Value ι))) :
    ∀ step ∈ pipeline, ∀ context, Explained host depth (.apply step context) := by
  cases pipeline with
  | nil => exact List.forall_mem_nil _
  | cons first others =>
      exact List.forall_mem_cons.mpr ⟨Explained.apply calls first, Explained.steps calls others⟩

end

theorem Host.callsExplained (host : Host σ ι) (depth : Nat) : CallsExplained host depth := by
  -- A call leads one level down; on one level `Explained.apply` follows the steps.
  induction depth with
  | zero =>
      intro _ _ _ _ _ ends
      cases ends
  | succ depth ih =>
      intro callable arguments
      refine .of_parts (fun _ _ isRun => by cases isRun) ?_ ?_
      · intro _ _ _ _ enters
        cases enters with
        | closure => exact .run (Explained.steps ih _) _
      · intro _ _ _ _ _ _ reacts asks
        cases reacts
        exact .of_asks ih asks

/-- The frame of a run of a pipeline from a context and a world. -/
structure Frame.Runs (frame : Frame σ ι) (depth : Nat) (pipeline : Pipeline ι (Value ι))
    (context : Context ι) (world : World σ) : Prop where
  depth_eq : frame.depth = depth
  pipeline_eq : frame.front ++ frame.step :: frame.rest = pipeline
  context_eq : frame.context = context
  world_eq : frame.world = world

/-- The outermost of the active pipelines is the one that fails. -/
theorem Fails.exists_outermost {pipeline : Pipeline ι (Value ι)} {context : Context ι}
    (fails : Fails host depth (.run pipeline context) world active origin after) :
    ∃ within own, active = within ++ [own] ∧ own.Runs depth pipeline context world := by
  cases fails with
  | here breaks => cases breaks with
    | host reacts _ _ => cases reacts
  | run reaches fails => exact ⟨_, _, rfl, rfl, rfl, rfl, rfl⟩
  | inside enters _ => cases enters
  | request reacts _ _ _ => cases reacts

/-- A run fails if and only if an operation in it does, and it fails with the error of the operation
and the notes of the pipelines that are active, the innermost one first.  In none of them a step is
applied behind the one that is running. -/
theorem run_error_iff (host : Host σ ι) (depth : Nat) (pipeline : Pipeline ι (Value ι))
    (receiver : Value ι) (world after : World σ) (error : RunError) :
    host.run depth pipeline receiver world = some (.error error, after) ↔
      ∃ within own origin, own.Runs depth pipeline (Context.fresh receiver) world ∧
        Fails host depth (.run pipeline (Context.fresh receiver)) world (within ++ [own]) origin
          after ∧
        error.cause = origin.cause ∧
        error.notes = origin.notes ++
          (within ++ [own]).map (fun frame => "while running `" ++ frame.step.label ++ "`") ∧
        ∀ inner frame, inner ++ [frame] <+: within ++ [own] →
          frame.StopsWith host (origin.addNotes ((inner ++ [frame]).map Frame.note)) := by
  constructor
  · intro failed
    have ends : (Activity.run pipeline (Context.fresh receiver)).EndsIn host depth world error
        after :=
      Pipeline.endsIn_iff.mpr failed
    obtain ⟨active, origin, fails, rfl⟩ :=
      Explained.run (Explained.steps (host.callsExplained depth) pipeline) _ _ _ _ ends
    obtain ⟨within, own, rfl, runs⟩ := fails.exists_outermost
    exact ⟨within, own, origin, runs, fails, rfl, rfl, fun _ _ upTo => fails.stopsWith upTo⟩
  · rintro ⟨within, own, origin, -, fails, causeEq, notesEq, -⟩
    obtain ⟨cause, notes⟩ := error
    obtain rfl : cause = origin.cause := causeEq
    obtain rfl := notesEq
    exact Pipeline.endsIn_iff.mp fails.endsIn

end Focal
