import Focal.Proofs.Eval.Makings

/-!
# What is known

An identity cannot be forged.  A program hands on the values that it was given, takes them apart, and
makes new ones under new identities.  `Course.Honest` says so of a course, for whatever values are
known when it starts, and `Host.Honest` of a host.  With an honest host every part of a run is honest
(`Activity.honest_course`).

So whatever is known where an honest course comes to was known when it started, or has been made on
the way (`Course.Comes.exists_learnt`).
-/

namespace Focal

variable {σ ι α β : Type}

/-! ## The parts of values -/

mutual

/-- The fixed values in a step. -/
def Step.constants {ν : Type} : Step ι ν → List ν
  | .replace _ value => [value]
  | .block body => Pipeline.constants body
  | .group body => Pipeline.constants body
  | .call arguments => Pipeline.constants arguments
  | _ => []

/-- The fixed values in the steps of a pipeline. -/
def Pipeline.constants {ν : Type} : List (Step ι ν) → List ν
  | [] => []
  | step :: rest => step.constants ++ Pipeline.constants rest

end

/-- The values in a callable. -/
def Callable.parts : Callable ι → List (Value ι)
  | .native .. => []
  | .closure body receiver => receiver :: Pipeline.constants body

/-- The values in a container. -/
def Container.parts : Container ι → List (Value ι)
  | .bindings entries => entries.entries.map (·.2)
  | .native .. => []

/-- The values in a value. -/
def Value.parts : Value ι → List (Value ι)
  | .callable _ target => target.parts
  | .container _ target => target.parts
  | .object _ target members => target.parts ++ members.parts
  | _ => []

/-- The identity of a value that has one. -/
def Value.identity? : Value ι → Option Identity
  | .callable identity _ => some identity
  | .container identity _ => some identity
  | .object identity _ _ => some identity
  | _ => none

theorem Value.parts_eq_nil {value : Value ι} (plain : value.identity? = none) :
    value.parts = [] := by
  cases value <;> first | rfl | cases plain

/-- The values in a context. -/
def Context.values (context : Context ι) : List (Value ι) :=
  context.receiver :: context.focus ++ context.results

/-- The values that a part of a run works on. -/
def Activity.values : Activity ι → List (Value ι)
  | run pipeline context => Pipeline.constants pipeline ++ context.values
  | apply step context => step.constants ++ context.values
  | call target arguments => target :: arguments
  | invoke callable arguments => callable.parts ++ arguments
  | lookup target _ => [target]

/-- The values in a result, if there is one. -/
def resultValues : Except RunError (List (Value ι)) → List (Value ι)
  | .ok values => values
  | .error _ => []

/-- The values that a part of a run comes to. -/
def Activity.resultValues : (activity : Activity ι) → activity.Result → List (Value ι)
  | run .., outcome | apply .., outcome => Context.values (Prod.snd outcome)
  | call .., answer | invoke .., answer => Focal.resultValues answer
  | lookup .., answer => Focal.resultValues (Except.map ([·]) answer)

/-! ## Honesty -/

/-- What is known are values, all that have no identity among them, and all values in known ones. -/
structure Closed (known : Value ι → Prop) : Prop where
  plain : ∀ value, value.identity? = none → known value
  parts : ∀ value, known value → ∀ part ∈ value.parts, known part

/-- What is known when known values have been put together under an identity. -/
def withMade (known : Value ι → Prop) (identity : Identity) (value : Value ι) : Prop :=
  known value ∨ value.identity? = some identity ∧ ∀ part ∈ value.parts, known part

/-- What is known when a value has been learnt. -/
def withValue (known : Value ι → Prop) (learnt value : Value ι) : Prop :=
  known value ∨ value = learnt

/-- A course uses only values that are known, for its requests, in the states of the host and in its
result: known at first, found in a state, made under an identity of its own, or answered.  A state
holds the values that `holds` says, and a result those that `values` gives. -/
def Course.Honest (holds : σ → Value ι → Prop) (values : α → List (Value ι)) :
    Course σ ι α → (Value ι → Prop) → Prop
  | .done result, known => ∀ value ∈ values result, known value
  | .stuck, _ => True
  | .read next, known => ∀ state, (∀ value, holds state value → known value) →
      (next state).Honest holds values known
  | .write state next, known => (∀ value, holds state value → known value) ∧
      next.Honest holds values known
  | .allocate next, known => ∀ identity,
      (next identity).Honest holds values (withMade known identity)
  | .close body receiver next, known =>
      (∀ value ∈ receiver :: Pipeline.constants body, known value) ∧
        ∀ identity, (next (.callable identity (.closure body receiver))).Honest holds values
          (withValue known (.callable identity (.closure body receiver)))
  | .request _ part next, known => (∀ value ∈ part.values, known value) ∧
      ∀ later : Value ι → Prop, Closed later → (∀ value, known value → later value) →
        ∀ answer, (∀ value ∈ part.resultValues answer, later value) →
          (next answer).Honest holds values later

/-- A reaction uses only values that are known. -/
def Reaction.Honest (holds : σ → Value ι → Prop) (values : α → List (Value ι))
    (reaction : Reaction σ ι α) (known : Value ι → Prop) : Prop :=
  ∀ depth, (Course.ofReaction depth id reaction).Honest holds values known

/-- A host invents no values: in each of its reactions it uses what it is given, what its state
holds and what it makes. -/
structure Host.Honest (host : Host σ ι) (holds : σ → Value ι → Prop) : Prop where
  call : ∀ handle arguments known, Closed known → (∀ value ∈ arguments, known value) →
    (host.call handle arguments).Honest holds resultValues known
  find : ∀ handle name known, Closed known →
    (host.find handle name).Honest holds Option.toList known
  mapStep : ∀ handle context value known, Closed known →
    (∀ value ∈ context.values, known value) → known value →
      (host.mapStep handle context value).Honest holds (resultValues <| ·.map ([·])) known
  spliceStep : ∀ handle context value known, Closed known →
    (∀ value ∈ context.values, known value) → known value →
      (host.spliceStep handle context value).Honest holds resultValues known
  modifyStep : ∀ handle context known, Closed known → (∀ value ∈ context.values, known value) →
    (host.modifyStep handle context).Honest holds (·.2.values) known

/-! ## What is given is known -/

section Known

variable {known later : Value ι → Prop} {context : Context ι} {value : Value ι}

theorem Closed.withMade (closed : Closed known) (identity : Identity) :
    Closed (withMade known identity) where
  plain value plain := .inl (closed.plain value plain)
  parts value isKnown part mem := by
    rcases isKnown with isKnown | ⟨_, partsKnown⟩
    · exact .inl (closed.parts value isKnown part mem)
    · exact .inl (partsKnown part mem)

theorem Closed.withValue (closed : Closed known) {learnt : Value ι}
    (partsKnown : ∀ part ∈ learnt.parts, known part) : Closed (withValue known learnt) where
  plain value plain := .inl (closed.plain value plain)
  parts value isKnown part mem := by
    rcases isKnown with isKnown | rfl
    · exact .inl (closed.parts value isKnown part mem)
    · exact .inl (partsKnown part mem)

theorem Closed.current (closed : Closed known) (given : ∀ value ∈ context.values, known value) :
    known context.current := by
  rw [Context.current, List.getLastD_eq_getLast?]
  cases found : context.focus.getLast? with
  | none => exact closed.plain _ rfl
  | some value =>
      have mem := List.mem_of_getLast? found
      exact given value (by simp [Context.values, mem])

theorem Closed.parts_of_toCallable (closed : Closed known) (isKnown : known value)
    {callable : Callable ι} (isCallable : value.toCallable = .ok callable) :
    ∀ part ∈ callable.parts, known part := by
  intro part mem
  refine closed.parts value isKnown part ?_
  cases value <;> cases isCallable
  · exact mem
  · exact List.mem_append_left _ mem

theorem Closed.parts_of_toContainer (closed : Closed known) (isKnown : known value)
    {container : Container ι} (isContainer : value.toContainer = .ok container) :
    ∀ part ∈ container.parts, known part := by
  intro part mem
  refine closed.parts value isKnown part ?_
  cases value <;> cases isContainer
  · exact mem
  · exact List.mem_append_right _ mem

theorem Context.forall_values_iff :
    (∀ value ∈ context.values, known value) ↔
      known context.receiver ∧ (∀ value ∈ context.focus, known value) ∧
        ∀ value ∈ context.results, known value := by
  rw [values, List.cons_append, List.forall_mem_cons, List.forall_mem_append]

theorem Context.known_dropCurrent (given : ∀ value ∈ context.values, known value) :
    ∀ value ∈ context.dropCurrent.values, known value := by
  obtain ⟨receiverKnown, focusKnown, resultsKnown⟩ := forall_values_iff.mp given
  exact forall_values_iff.mpr ⟨receiverKnown,
    fun value mem => focusKnown value (List.dropLast_subset _ mem), resultsKnown⟩

theorem Context.known_extend (given : ∀ value ∈ context.values, known value)
    {others : List (Value ι)} (othersKnown : ∀ value ∈ others, known value) :
    ∀ value ∈ (context.extend others).values, known value := by
  obtain ⟨receiverKnown, focusKnown, resultsKnown⟩ := forall_values_iff.mp given
  exact forall_values_iff.mpr
    ⟨receiverKnown, List.forall_mem_append.mpr ⟨focusKnown, othersKnown⟩, resultsKnown⟩

theorem Context.known_resume (given : ∀ value ∈ context.values, known value)
    {answer : Except RunError (List (Value ι))}
    (answered : ∀ value ∈ resultValues answer, known value) :
    ∀ value ∈ (context.dropCurrent.resume answer).2.values, known value := by
  cases answer with
  | error error => exact known_dropCurrent given
  | ok values => exact known_extend (known_dropCurrent given) answered

theorem Context.known_fresh {receiver : Value ι} (receiverKnown : known receiver) :
    ∀ value ∈ (fresh receiver).values, known value :=
  forall_values_iff.mpr
    ⟨receiverKnown, List.forall_mem_singleton.mpr receiverKnown, List.forall_mem_nil _⟩

theorem Context.known_commit (given : ∀ value ∈ context.values, known value) :
    ∀ value ∈ context.commit.values, known value := by
  obtain ⟨receiverKnown, focusKnown, resultsKnown⟩ := forall_values_iff.mp given
  exact forall_values_iff.mpr ⟨receiverKnown, List.forall_mem_singleton.mpr receiverKnown,
    List.forall_mem_append.mpr ⟨resultsKnown, focusKnown⟩⟩

theorem Context.known_reset (given : ∀ value ∈ context.values, known value) :
    ∀ value ∈ context.reset.values, known value := by
  obtain ⟨receiverKnown, -, resultsKnown⟩ := forall_values_iff.mp given
  exact forall_values_iff.mpr
    ⟨receiverKnown, List.forall_mem_singleton.mpr receiverKnown, resultsKnown⟩

theorem Outcome.known_results {outcome : Outcome ι}
    (given : ∀ value ∈ outcome.2.values, known value) :
    ∀ value ∈ resultValues outcome.results, known value := by
  obtain ⟨_ | _, last⟩ := outcome
  · exact List.forall_mem_nil _
  · exact (Context.forall_values_iff.mp given).2.2

end Known

/-! ## Honest courses -/

section Honest

variable {host : Host σ ι} {holds : σ → Value ι → Prop} {known : Value ι → Prop}

/-- What a reaction of an honest host comes to may be used in a function whose values are known when
those of the result are. -/
theorem Course.Honest.finish {depth : Nat} {values : α → List (Value ι)}
    {finishedValues : β → List (Value ι)} {finish : α → β} {reaction : Reaction σ ι α}
    (honest : (Course.ofReaction depth id reaction).Honest holds values known)
    (finishes : ∀ later : Value ι → Prop, (∀ value, known value → later value) →
      ∀ result, (∀ value ∈ values result, later value) →
        ∀ value ∈ finishedValues (finish result), later value) :
    (Course.ofReaction depth finish reaction).Honest holds finishedValues known := by
  induction reaction generalizing known with
  | done result => exact finishes known (fun _ isKnown => isKnown) result honest
  | read next ih =>
      exact fun state held => ih state (honest state held) finishes
  | write state next ih => exact ⟨honest.1, ih honest.2 finishes⟩
  | allocate next ih =>
      intro identity
      refine ih identity (honest identity) fun later grows => finishes later fun value isKnown =>
        grows value (.inl isKnown)
  | call target arguments next ih | lookup target name next ih =>
      refine ⟨honest.1, fun later closed grows answer answered => ?_⟩
      refine ih answer (honest.2 later closed grows answer answered) fun latest growsOn =>
        finishes latest fun value isKnown => growsOn value (grows value isKnown)

theorem Step.honest_course (honest : host.Honest holds) {depth : Nat} {step : Step ι (Value ι)}
    {context : Context ι} (closed : Closed known)
    (constantsKnown : ∀ value ∈ step.constants, known value)
    (given : ∀ value ∈ context.values, known value) :
    (step.course host depth context).Honest holds (·.2.values) known := by
  have receiverKnown := (Context.forall_values_iff.mp given).1
  have resumes (later : Value ι → Prop) (grows : ∀ value, known value → later value)
      (answer : Except RunError (List (Value ι)))
      (answered : ∀ value ∈ resultValues answer, later value) :
      ∀ value ∈ (context.dropCurrent.resume answer).2.values, later value :=
    Context.known_resume (fun value mem => grows value (given value mem)) answered
  -- What is known when a request is made is still known when it is answered.
  cases step with
  | replace label value =>
      exact Context.known_extend (Context.known_dropCurrent given) constantsKnown
  | commit => exact Context.known_commit given
  | reset => exact Context.known_reset given
  | lookup name =>
      exact ⟨List.forall_mem_singleton.mpr receiverKnown,
        fun later _ grows answer answered => resumes later grows _ answered⟩
  | member name =>
      exact ⟨List.forall_mem_singleton.mpr (closed.current given),
        fun later _ grows answer answered => resumes later grows _ answered⟩
  | block body =>
      refine ⟨List.forall_mem_cons.mpr ⟨receiverKnown, constantsKnown⟩, fun identity => ?_⟩
      exact resumes _ (fun value isKnown => .inl isKnown) _
        (List.forall_mem_singleton.mpr (.inr rfl))
  | group body =>
      refine ⟨List.forall_mem_append.mpr ⟨constantsKnown, Context.known_fresh receiverKnown⟩, ?_⟩
      exact fun later _ grows outcome answered =>
        resumes later grows _ (Outcome.known_results answered)
  | call arguments =>
      rw [Step.course]
      split
      · exact resumes known (fun _ isKnown => isKnown) _ (List.forall_mem_nil _)
      · rename_i callable isCallable
        have partsKnown := closed.parts_of_toCallable (closed.current given) isCallable
        refine ⟨List.forall_mem_append.mpr ⟨constantsKnown, Context.known_fresh receiverKnown⟩, ?_⟩
        intro later _ grows outcome answered
        obtain ⟨_ | _, last⟩ : Outcome ι := outcome
        · exact resumes later grows _ (List.forall_mem_nil _)
        · refine ⟨List.forall_mem_append.mpr ⟨fun part mem => grows part (partsKnown part mem),
            (Context.forall_values_iff.mp answered).2.2⟩, ?_⟩
          exact fun latest _ growsOn answer called => resumes latest
            (fun value isKnown => growsOn value (grows value isKnown)) _ called
  | hostMap label handle =>
      refine (honest.mapStep handle _ _ known closed (Context.known_dropCurrent given)
        (closed.current given) depth).finish fun later grows answer => ?_
      exact resumes later grows _
  | hostSplice label handle =>
      refine (honest.spliceStep handle _ _ known closed (Context.known_dropCurrent given)
        (closed.current given) depth).finish fun later grows answer => ?_
      exact resumes later grows _
  | hostModify label handle => exact honest.modifyStep handle _ known closed given depth

theorem Pipeline.honest_course {depth : Nat} {pipeline : Pipeline ι (Value ι)}
    {context : Context ι} (constantsKnown : ∀ value ∈ Pipeline.constants pipeline, known value)
    (given : ∀ value ∈ context.values, known value) :
    (Pipeline.course depth pipeline context : Course σ ι (Outcome ι)).Honest holds (·.2.values)
      known := by
  cases pipeline with
  | nil => exact given
  | cons step rest =>
      obtain ⟨stepKnown, restKnown⟩ := List.forall_mem_append.mp constantsKnown
      refine ⟨List.forall_mem_append.mpr ⟨stepKnown, given⟩, ?_⟩
      intro later _ grows outcome answered
      obtain ⟨_ | _, next⟩ : Outcome ι := outcome
      · exact answered
      · exact ⟨List.forall_mem_append.mpr ⟨fun value mem => grows value (restKnown value mem),
          answered⟩, fun _ _ _ _ ended => ended⟩

theorem Callable.honest_course (honest : host.Honest holds) {depth : Nat} {callable : Callable ι}
    {arguments : List (Value ι)} (closed : Closed known)
    (partsKnown : ∀ value ∈ callable.parts, known value)
    (given : ∀ value ∈ arguments, known value) :
    (callable.course host depth arguments).Honest holds resultValues known := by
  cases depth with
  | zero => trivial
  | succ depth =>
      cases callable with
      | native name handle => exact honest.call handle arguments known closed given depth
      | closure body receiver =>
          obtain ⟨receiverKnown, bodyKnown⟩ := List.forall_mem_cons.mp partsKnown
          have headKnown : known (arguments.headD receiver) := by
            cases arguments with
            | nil => exact receiverKnown
            | cons first others => exact given first List.mem_cons_self
          exact ⟨List.forall_mem_append.mpr ⟨bodyKnown, Context.known_fresh headKnown⟩,
            fun _ _ _ _ answered => Outcome.known_results answered⟩

theorem Container.honest_course (honest : host.Honest holds) {depth : Nat}
    {container : Container ι} {name : String} (closed : Closed known)
    (partsKnown : ∀ value ∈ container.parts, known value) :
    (container.course host name depth).Honest holds (resultValues <| ·.map ([·])) known := by
  have bound (later : Value ι → Prop) (found : Option (Value ι))
      (foundKnown : ∀ value ∈ found.toList, later value) :
      ∀ value ∈ resultValues ((Answers.bound name found).map ([·])), later value := by
    cases found with
    | none => exact List.forall_mem_nil _
    | some value => exact foundKnown
  cases container with
  | bindings entries =>
      have entryKnown : ∀ value ∈ (entries.get? name).toList, known value := by
        intro value mem
        refine partsKnown value ?_
        obtain ⟨entry, found, rfl⟩ := Option.map_eq_some_iff.mp (Option.mem_toList.mp mem)
        exact List.mem_map_of_mem (List.mem_of_find?_eq_some found)
      cases depth <;> exact bound known _ entryKnown
  | native _ handle =>
      cases depth with
      | zero => trivial
      | succ depth =>
          exact (honest.find handle name known closed depth).finish fun later _ found =>
            bound later found

/-- With an honest host, every part of a run is honest. -/
theorem Activity.honest_course (honest : host.Honest holds) {depth : Nat} {activity : Activity ι}
    (closed : Closed known) (given : ∀ value ∈ activity.values, known value) :
    (activity.course host depth).Honest holds activity.resultValues known := by
  cases activity with
  | run pipeline context =>
      obtain ⟨constantsKnown, contextKnown⟩ := List.forall_mem_append.mp given
      exact Pipeline.honest_course constantsKnown contextKnown
  | apply step context =>
      obtain ⟨constantsKnown, contextKnown⟩ := List.forall_mem_append.mp given
      exact Step.honest_course honest closed constantsKnown contextKnown
  | call target arguments =>
      obtain ⟨targetKnown, argumentsKnown⟩ := List.forall_mem_cons.mp given
      rw [course]
      split
      · rename_i callable isCallable
        exact ⟨List.forall_mem_append.mpr
          ⟨closed.parts_of_toCallable targetKnown isCallable, argumentsKnown⟩,
          fun _ _ _ _ answered => answered⟩
      · exact List.forall_mem_nil _
  | invoke callable arguments =>
      obtain ⟨partsKnown, argumentsKnown⟩ := List.forall_mem_append.mp given
      exact Callable.honest_course honest closed partsKnown argumentsKnown
  | lookup target name =>
      rw [course]
      split
      · rename_i container isContainer
        exact Container.honest_course honest closed
          (closed.parts_of_toContainer (given target List.mem_cons_self) isContainer)
      · exact List.forall_mem_nil _

end Honest

/-! ## What is learnt -/

/-- A value is what a making yields: the closure, or a value under the identity that the host
made. -/
def Making.Yields : Making σ ι → Value ι → Prop
  | closure body receiver world, value =>
      value = .callable world.allocated (.closure body receiver)
  | host world, value => value.identity? = some world.allocated

/-- What is known fits a world: the state of the host holds nothing else, and every identity in it
has been made. -/
structure Fits (holds : σ → Value ι → Prop) (known : Value ι → Prop) (world : World σ) : Prop where
  closed : Closed known
  held : ∀ value, holds world.host value → known value
  allocated : ∀ value identity, known value → value.identity? = some identity →
    identity < world.allocated

/-- Carrying out a course has led to another stage, where more is known, all of it known at first or
made in the course. -/
structure Learnt (host : Host σ ι) (holds : σ → Value ι → Prop) (course : Course σ ι α)
    (world : World σ) (known : Value ι → Prop) (stage : World σ) (later : Value ι → Prop) :
    Prop where
  grows : ∀ value, known value → later value
  fits : Fits holds later stage
  made : ∀ value, later value → known value ∨
    ∃ making, course.Makes host world making ∧ making.Yields value

section Learnt

variable {host : Host σ ι} {holds : σ → Value ι → Prop} {course next : Course σ ι α}
  {rest : Course σ ι β} {world between stage after : World σ} {known middle later : Value ι → Prop}
  {values : α → List (Value ι)} {result : α}

/-- Nothing is learnt on the way to a stage that the known values fit. -/
theorem Learnt.of_fits (fits : Fits holds known stage) :
    Learnt host holds course world known stage known where
  grows _ isKnown := isKnown
  fits := fits
  made _ isKnown := .inl isKnown

/-- What is learnt behind a part of a course is learnt in the course. -/
theorem Learnt.trans (first : Learnt host holds course world known between middle)
    (behind : Learnt host holds rest between middle stage later)
    (lifts : ∀ {γ : Type} {last : Course σ ι γ} {final : World σ},
      rest.Comes host between last final → course.Comes host world last final) :
    Learnt host holds course world known stage later where
  grows value isKnown := behind.grows value (first.grows value isKnown)
  fits := behind.fits
  made value isKnown := by
    obtain isKnown | ⟨making, ⟨_, last, final, comes, starts⟩, yields⟩ :=
      behind.made value isKnown
    · exact first.made value isKnown
    · exact .inr ⟨making, ⟨_, last, final, lifts comes, starts⟩, yields⟩

/-- When the host has made an identity, values may be known under it. -/
theorem Fits.allocate (fits : Fits holds known world) {next : Identity → Course σ ι α} :
    Learnt host holds (.allocate next) world known
      { world with allocated := world.allocated + 1 } (withMade known world.allocated) where
  grows _ isKnown := .inl isKnown
  fits :=
    { closed := fits.closed.withMade _
      held := fun value held => .inl (fits.held value held)
      allocated := by
        rintro value identity (isKnown | ⟨made, -⟩) identified
        · exact Nat.lt_succ_of_lt (fits.allocated value identity isKnown identified)
        · obtain rfl := Option.some.inj (made.symm.trans identified)
          exact Nat.lt_succ_self _ }
  made value isKnown := by
    rcases isKnown with isKnown | ⟨made, -⟩
    · exact .inl isKnown
    · exact .inr ⟨.host world, ⟨_, _, _, .here, rfl⟩, made⟩

/-- When a closure has been made, it is known. -/
theorem Fits.close (fits : Fits holds known world) {body : Pipeline ι (Value ι)}
    {receiver : Value ι} {next : Value ι → Course σ ι α}
    (partsKnown : ∀ value ∈ receiver :: Pipeline.constants body, known value) :
    Learnt host holds (.close body receiver next) world known
      { world with allocated := world.allocated + 1 }
      (withValue known (.callable world.allocated (.closure body receiver))) where
  grows _ isKnown := .inl isKnown
  fits :=
    { closed := fits.closed.withValue partsKnown
      held := fun value held => .inl (fits.held value held)
      allocated := by
        rintro value identity (isKnown | rfl) identified
        · exact Nat.lt_succ_of_lt (fits.allocated value identity isKnown identified)
        · obtain rfl := Option.some.inj identified
          exact Nat.lt_succ_self _ }
  made value isKnown := by
    rcases isKnown with isKnown | isMade
    · exact .inl isKnown
    · exact .inr ⟨.closure body receiver world, ⟨_, _, _, .here, rfl⟩, isMade⟩

/-- Whenever a part of a run ends, its result is known, and nothing else that was not known before
or made in it. -/
def Activity.Teaches (host : Host σ ι) (holds : σ → Value ι → Prop) (depth : Nat)
    (part : Activity ι) : Prop :=
  ∀ (world after : World σ) (known : Value ι → Prop) (answer : part.Result),
    Fits holds known world → (∀ value ∈ part.values, known value) →
      part.evaluate host depth world = some (answer, after) →
        ∃ later, Learnt host holds (part.course host depth) world known after later ∧
          ∀ value ∈ part.resultValues answer, later value

namespace Course

theorem Moves.exists_learnt_of_parts
    (parts : ∀ depth part, course.Requests depth part → part.Teaches host holds depth)
    (moves : course.Moves host world next between) (honest : course.Honest holds values known)
    (fits : Fits holds known world) :
    ∃ middle, Learnt host holds course world known between middle ∧
      next.Honest holds values middle := by
  cases moves with
  | read => exact ⟨known, .of_fits fits, honest _ fits.held⟩
  | write => exact ⟨known, .of_fits { fits with held := honest.1 }, honest.2⟩
  | allocate => exact ⟨_, fits.allocate, honest _⟩
  | close => exact ⟨_, fits.close honest.1, honest.2 _⟩
  | @answer depth part _ _ _ answer ended =>
      obtain ⟨middle, learnt, answerKnown⟩ :=
        parts depth part .here world between known answer fits honest.1 ended
      exact ⟨middle, (Learnt.of_fits fits).trans learnt .inside,
        honest.2 middle learnt.fits.closed learnt.grows answer answerKnown⟩

theorem Ends.exists_learnt_of_parts
    (parts : ∀ depth part, course.Requests depth part → part.Teaches host holds depth)
    (ends : Ends host result after course world) (honest : course.Honest holds values known)
    (fits : Fits holds known world) :
    ∃ later, Learnt host holds course world known after later ∧
      ∀ value ∈ values result, later value := by
  induction ends generalizing known with
  | done => exact ⟨known, .of_fits fits, honest⟩
  | move moves _ ih =>
      obtain ⟨middle, first, nextHonest⟩ := moves.exists_learnt_of_parts parts honest fits
      obtain ⟨later, learnt, resultKnown⟩ :=
        ih (fun depth part requests => parts depth part (moves.requests requests)) nextHonest
          first.fits
      exact ⟨later, first.trans learnt (.move moves), resultKnown⟩

end Course

/-- With an honest host, whatever a part of a run comes to is known. -/
theorem Activity.teaches (hostHonest : host.Honest holds) (depth : Nat) (part : Activity ι) :
    part.Teaches host holds depth :=
  Activity.induction host (fun _ _ parts _ _ _ _ fits given ended =>
    (Activity.evaluate_eq_some_iff.mp ended).exists_learnt_of_parts parts
      (honest_course hostHonest fits.closed given) fits) depth part

/-- Wherever an honest course comes to, what is known there was known when it started, or made on
the way, and what is left is honest too. -/
theorem Course.Comes.exists_learnt (hostHonest : host.Honest holds)
    (comes : course.Comes host world rest stage) (honest : course.Honest holds values known)
    (fits : Fits holds known world) :
    ∃ later restValues, Learnt host holds course world known stage later ∧
      rest.Honest holds restValues later := by
  induction comes generalizing known with
  | here => exact ⟨known, values, .of_fits fits, honest⟩
  | move moves _ ih =>
      obtain ⟨middle, first, nextHonest⟩ := moves.exists_learnt_of_parts
        (fun depth part _ => part.teaches hostHonest depth) honest fits
      obtain ⟨later, restValues, learnt, restHonest⟩ := ih nextHonest first.fits
      exact ⟨later, restValues, first.trans learnt (.move moves), restHonest⟩
  | inside _ ih =>
      obtain ⟨later, restValues, learnt, restHonest⟩ :=
        ih (Activity.honest_course hostHonest fits.closed honest.1) fits
      exact ⟨later, restValues, (Learnt.of_fits fits).trans learnt .inside, restHonest⟩

end Learnt

end Focal
