import Focal.Proofs.Eval.Steps
import Focal.Proofs.Pipeline.Compile

/-!
# Contexts between steps

No step of a compiled pipeline starts a slot.  That every slot and every segment starts with the
receiver in focus comes from where the commits and resets stand: a step that starts a value stands
only at the start of a pipeline or behind one of them (`Segmented`).

`SlotDiscipline` says what holds of the context in front of any step, up to which all steps
succeeded: its receiver is the one it was made with, the receiver alone is in focus where a segment
starts, results are only added, and only by commits, and what is in focus was computed by the steps
of the current segment from the receiver alone.  It holds in every compiled pipeline, and in all
pipelines inside it (`slot_discipline`), each of which runs on a context of its own
(`Pipeline.resultsFrom`, `Context.fresh`).
-/

namespace Focal

open Syntax

variable {σ ι ν : Type}

/-! ## Steps and segments -/

/-- The part that a step has in a segment. -/
inductive StepRole where
  /-- It starts a value, which becomes the current one. -/
  | value
  /-- It goes on from the current value. -/
  | trailer
  /-- It ends the segment. -/
  | separator
  /-- A step of the host, which no source compiles to. -/
  | foreign
deriving DecidableEq

namespace Step

/-- The part that a step has in a segment. -/
def role : Step ι ν → StepRole
  | replace .. | lookup _ | block _ | group _ => .value
  | member _ | call _ => .trailer
  | commit | reset => .separator
  | hostMap .. | hostSplice .. | hostModify .. => .foreign

/-- The pipeline that a step holds. -/
def body? : Step ι ν → Option (Pipeline ι ν)
  | block body | group body | call body => some body
  | _ => none

/-- The values that a step adds to the results of a context. -/
def committed (context : Context ι) : Step ι (Value ι) → List (Value ι)
  | commit => context.focus
  | _ => []

end Step

/-- A segment starts behind some steps: there are none, or the last one ends a segment. -/
def Pipeline.AtBoundary (front : Pipeline ι ν) : Prop :=
  ∀ step, front.getLast? = some step → step.role = .separator

/-- A pipeline is another one, or inside a step of it. -/
inductive Pipeline.Nests : Pipeline ι ν → Pipeline ι ν → Prop
  | self {pipeline : Pipeline ι ν} : Nests pipeline pipeline
  | inside {pipeline body inner : Pipeline ι ν} {step : Step ι ν} (mem : step ∈ pipeline)
      (held : step.body? = some body) (nests : Nests body inner) : Nests pipeline inner

/-- Steps that start a value stand only where a segment starts, and there are no steps of the
host.  The flag says whether a segment starts in front of the first step. -/
inductive Segmented : Bool → Pipeline ι ν → Prop
  | nil {atStart : Bool} : Segmented atStart []
  | value {step : Step ι ν} {rest : Pipeline ι ν} (starts : step.role = .value)
      (others : Segmented false rest) : Segmented true (step :: rest)
  | trailer {atStart : Bool} {step : Step ι ν} {rest : Pipeline ι ν}
      (trails : step.role = .trailer) (others : Segmented false rest) :
      Segmented atStart (step :: rest)
  | separator {atStart : Bool} {step : Step ι ν} {rest : Pipeline ι ν}
      (ends : step.role = .separator) (others : Segmented true rest) :
      Segmented atStart (step :: rest)

/-- What may stand within a segment may also stand at its start. -/
theorem Segmented.of_false {atStart : Bool} {steps : Pipeline ι ν}
    (segmented : Segmented false steps) : Segmented atStart steps := by
  cases segmented with
  | nil => exact .nil
  | trailer trails others => exact .trailer trails others
  | separator ends others => exact .separator ends others

/-! ## Steps of trees -/

namespace Syntax

/-- Whether a term has no trailers. -/
def Term.isPrimary : Term → Bool
  | .call .. | .member .. => false
  | _ => true

/-- The step is the one that a primary compiles to. -/
def OfPrimary (step : Step ι (Value ι)) : Prop :=
  ∃ term : Term, term.isPrimary = true ∧ term.steps = [step]

theorem OfPrimary.role_eq {step : Step ι (Value ι)} (ofPrimary : OfPrimary step) :
    step.role = .value := by
  obtain ⟨term, isPrimary, stepsEq⟩ := ofPrimary
  rcases term with _ | name | text | value | value | (_ | program) | (_ | program) | _ | _
  case call | member => cases isPrimary
  case receiver => cases stepsEq
  all_goals
    obtain rfl := List.head_eq_of_cons_eq stepsEq
    rfl

theorem Term.segmented_append (term : Term) {rest : Pipeline ι (Value ι)}
    (others : Segmented false rest) : Segmented true (term.steps ++ rest) := by
  cases term with
  | receiver => exact others.of_false
  | name _ | str _ | int _ | float _ => exact .value rfl others
  | group body | block body => cases body <;> exact .value rfl others
  | call target arguments =>
      cases arguments <;>
        exact List.append_assoc target.steps _ rest ▸ target.segmented_append (.trailer rfl others)
  | member target name =>
      exact List.append_assoc target.steps _ rest ▸ target.segmented_append (.trailer rfl others)

theorem Slot.segmented_append (slot : Slot) {rest : Pipeline ι (Value ι)}
    (others : Segmented true rest) : Segmented true (slot.steps ++ rest) := by
  cases slot with
  | last segment =>
      cases segment with
      | empty => exact .value rfl (.separator rfl others)
      | term term =>
          rw [Slot.steps, List.append_assoc]
          exact term.segmented_append (.separator rfl others)
  | andThen segment next =>
      cases segment with
      | empty => exact .separator rfl (next.segmented_append others)
      | term term =>
          rw [Slot.steps, List.append_assoc]
          exact term.segmented_append (.separator rfl (next.segmented_append others))

/-- The steps of a program are those of its slots, but for a last one without any token. -/
theorem Program.segmented_steps (program : Program) :
    Segmented true (program.steps : Pipeline ι (Value ι)) := by
  -- `Program.steps` skips a blank last slot; over the slots that are left this is a plain induction.
  rw [Program.steps_eq_translation]
  generalize program.committed = slots
  induction slots with
  | nil => exact .nil
  | cons slot others ih =>
      rw [List.flatMap_cons, ← slot.steps_eq_translation]
      exact slot.segmented_append ih

/-- What a step holds are the steps of a program. -/
def HoldsProgram (step : Step ι (Value ι)) : Prop :=
  ∀ body, step.body? = some body → ∃ program : Program, program.steps = body

theorem HoldsProgram.of_none {step : Step ι (Value ι)} (holds : step.body? = none) :
    HoldsProgram step := by
  intro body held
  cases holds.symm.trans held

theorem HoldsProgram.of_steps {step : Step ι (Value ι)} (program : Program)
    (holds : step.body? = some program.steps) : HoldsProgram step := by
  intro body held
  exact ⟨program, Option.some.inj (holds.symm.trans held)⟩

theorem Term.holdsProgram (term : Term) :
    ∀ step ∈ (term.steps : Pipeline ι (Value ι)), HoldsProgram step := by
  cases term with
  | receiver => exact List.forall_mem_nil _
  | name _ | str _ | int _ | float _ => exact List.forall_mem_singleton.mpr (.of_none rfl)
  | group body =>
      cases body with
      | blank => exact List.forall_mem_singleton.mpr (.of_none rfl)
      | program program => exact List.forall_mem_singleton.mpr (.of_steps program rfl)
  | block body =>
      cases body with
      | blank =>
          exact List.forall_mem_singleton.mpr
            (.of_steps (.andThen (.last .empty) (.last (.last .empty))) rfl)
      | program program => exact List.forall_mem_singleton.mpr (.of_steps program rfl)
  | call target arguments =>
      cases arguments with
      | blank =>
          exact List.forall_mem_append.mpr ⟨target.holdsProgram,
            List.forall_mem_singleton.mpr (.of_steps (.last (.last .empty)) rfl)⟩
      | program program =>
          exact List.forall_mem_append.mpr ⟨target.holdsProgram,
            List.forall_mem_singleton.mpr (.of_steps program rfl)⟩
  | member target name =>
      exact List.forall_mem_append.mpr ⟨target.holdsProgram,
        List.forall_mem_singleton.mpr (.of_none rfl)⟩

theorem Slot.holdsProgram (slot : Slot) :
    ∀ step ∈ (slot.steps : Pipeline ι (Value ι)), HoldsProgram step := by
  have separator {step : Step ι (Value ι)} (holds : step.body? = none)
      {others : Pipeline ι (Value ι)} (ofOthers : ∀ other ∈ others, HoldsProgram other) :
      ∀ other ∈ step :: others, HoldsProgram other :=
    List.forall_mem_cons.mpr ⟨.of_none holds, ofOthers⟩
  cases slot with
  | last segment =>
      cases segment with
      | empty => exact separator rfl (separator rfl (List.forall_mem_nil _))
      | term term =>
          exact List.forall_mem_append.mpr
            ⟨term.holdsProgram, separator rfl (List.forall_mem_nil _)⟩
  | andThen segment rest =>
      cases segment with
      | empty => exact separator rfl rest.holdsProgram
      | term term =>
          exact List.forall_mem_append.mpr ⟨term.holdsProgram, separator rfl rest.holdsProgram⟩

theorem Program.holdsProgram (program : Program) :
    ∀ step ∈ (program.steps : Pipeline ι (Value ι)), HoldsProgram step := by
  rw [Program.steps_eq_translation]
  intro step mem
  obtain ⟨slot, _, ofSlot⟩ := List.mem_flatMap.mp mem
  exact slot.holdsProgram step (slot.steps_eq_translation ▸ ofSlot)

end Syntax

/-- Every pipeline inside the steps of a program is the steps of a program. -/
theorem Pipeline.Nests.exists_program {pipeline inner : Pipeline ι (Value ι)}
    (nests : pipeline.Nests inner) (compiled : ∃ program : Program, program.steps = pipeline) :
    ∃ program : Program, program.steps = inner := by
  induction nests with
  | self => exact compiled
  | inside mem held _ ih =>
      obtain ⟨program, rfl⟩ := compiled
      exact ih (program.holdsProgram _ mem _ held)

/-! ## What a step does to a context -/

variable (host : Host σ ι) (answers : Answers σ ι)

/-- A step that starts a value or goes on from one computes values in the place of the current one,
from the receiver and the current value. -/
theorem Step.exists_compute {step : Step ι (Value ι)}
    (computes : step.role = .value ∨ step.role = .trailer) :
    ∃ compute : Value ι → Value ι → Eval σ (List (Value ι)), ∀ context,
      step.apply host answers context =
        context.transform fun rest current => compute rest.receiver current := by
  cases step with
  | replace label value =>
      refine ⟨fun _ _ => pure [value], fun context => ?_⟩
      rw [Step.apply]
      rfl
  | lookup name =>
      exact ⟨fun receiver _ => do return [← answers.lookup receiver name],
        fun context => Step.apply_of_compute? host answers context rfl⟩
  | member name =>
      exact ⟨fun _ current => do return [← answers.lookup current name],
        fun context => Step.apply_of_compute? host answers context rfl⟩
  | block body =>
      exact ⟨fun receiver _ => do
          let identity ← (Run.allocate : Run σ Identity)
          return [.callable identity (.closure body receiver)],
        fun context => Step.apply_of_compute? host answers context rfl⟩
  | group body =>
      exact ⟨fun receiver _ => Pipeline.resultsFrom host answers body (Context.fresh receiver),
        fun context => Step.apply_of_compute? host answers context rfl⟩
  | call arguments =>
      exact ⟨fun receiver current => do
          let callable ← Eval.ofExcept current.toCallable
          answers.invoke callable
            (← Pipeline.resultsFrom host answers arguments (Context.fresh receiver)),
        fun context => Step.apply_of_compute? host answers context rfl⟩
  | _ => rcases computes with starts | trails <;> contradiction

/-- What a successful step that does not end a segment does: it puts values in the place of the
current one, and the same values whatever the results so far are. -/
structure Computed (step : Step ι (Value ι)) (context next : Context ι) (world after : World σ) :
    Prop where
  receiver_eq : next.receiver = context.receiver
  results_eq : next.results = context.results
  apply_alike : ∀ results, step.apply host answers { context with results } world =
    some ((.ok (), { next with results }), after)

variable {host answers} {step : Step ι (Value ι)} {steps front rest : Pipeline ι (Value ι)}
  {receiver : Value ι} {context next last : Context ι} {start world after : World σ}
  {atStart : Bool}

theorem Computed.of_apply (computes : step.role = .value ∨ step.role = .trailer)
    (applied : step.apply host answers context world = some ((.ok (), next), after)) :
    Computed host answers step context next world after := by
  obtain ⟨compute, applyEq⟩ := Step.exists_compute host answers computes
  rw [applyEq, Context.transform_eq_ok_iff] at applied
  obtain ⟨values, computed, rfl⟩ := applied
  refine ⟨rfl, rfl, fun results => ?_⟩
  rw [applyEq, Context.transform_eq_ok_iff]
  exact ⟨values, computed, rfl⟩

/-- What a successful step of a pipeline in segments does. -/
theorem Segmented.step_cases (segmented : Segmented atStart (step :: rest))
    (applied : step.apply host answers context world = some ((.ok (), next), after)) :
    (step.role ≠ .separator ∧ Segmented false rest ∧
        Computed host answers step context next world after) ∨
      (step = .commit ∧ Segmented true rest ∧ next = context.commit ∧ after = world) ∨
      (step = .reset ∧ Segmented true rest ∧ next = context.reset ∧ after = world) := by
  cases segmented with
  | value starts others =>
      exact .inl ⟨by simp [starts], others, .of_apply (.inl starts) applied⟩
  | trailer trails others =>
      exact .inl ⟨by simp [trails], others, .of_apply (.inr trails) applied⟩
  | separator ends others =>
      refine .inr ?_
      cases step with
      | commit =>
          rw [Step.apply] at applied
          cases applied
          exact .inl ⟨rfl, others, rfl, rfl⟩
      | reset =>
          rw [Step.apply] at applied
          cases applied
          exact .inr ⟨rfl, others, rfl, rfl⟩
      | _ => cases ends

theorem Step.committed_of_not_separator (notEnd : step.role ≠ .separator) (context : Context ι) :
    step.committed context = [] := by
  cases step with
  | commit => exact absurd rfl notEnd
  | _ => rfl

/-- Results are added behind the others, by commits alone and just as they are in focus. -/
theorem Segmented.results_eq (segmented : Segmented atStart (step :: rest))
    (applied : step.apply host answers context world = some ((.ok (), next), after)) :
    next.results = context.results ++ step.committed context := by
  rcases segmented.step_cases applied with
    ⟨notEnd, _, computed⟩ | ⟨rfl, _, rfl, _⟩ | ⟨rfl, _, rfl, _⟩
  · rw [computed.results_eq, Step.committed_of_not_separator notEnd, List.append_nil]
  · rfl
  · exact (List.append_nil _).symm

theorem Segmented.results_prefix (segmented : Segmented atStart (steps ++ rest))
    (reaches : Reaches host answers steps context world last after) :
    context.results <+: last.results := by
  induction reaches generalizing atStart with
  | nil => exact List.prefix_rfl
  | cons applied _ ih =>
      have added := segmented.results_eq applied
      rcases segmented.step_cases applied with ⟨_, others, _⟩ | ⟨_, others, _⟩ | ⟨_, others, _⟩
      all_goals exact (added ▸ List.prefix_append _ _).trans (ih others)

/-! ## The current segment -/

/-- The values in focus were computed by the steps behind the last separator from the receiver
alone, and the results are those that were there at this separator. -/
inductive OwnFocus (host : Host σ ι) (answers : Answers σ ι) (receiver : Value ι)
    (start : World σ) (front : Pipeline ι (Value ι)) (context : Context ι) (world : World σ) : Prop
  | intro {earlier segment : Pipeline ι (Value ι)} {middle : Context ι} {between : World σ}
      (splits : front = earlier ++ segment) (boundary : earlier.AtBoundary)
      (unseparated : ∀ step ∈ segment, step.role ≠ .separator)
      (before : Reaches host answers earlier (Context.fresh receiver) start middle between)
      (alone : Reaches host answers segment (Context.fresh receiver) between
        { context with results := [] } world)
      (results_eq : context.results = middle.results)

theorem Pipeline.atBoundary_nil : Pipeline.AtBoundary ([] : Pipeline ι ν) := by
  intro step last
  cases last

theorem Pipeline.atBoundary_concat {front : Pipeline ι ν} {step : Step ι ν} :
    Pipeline.AtBoundary (front ++ [step]) ↔ step.role = .separator := by
  simp [Pipeline.AtBoundary]

theorem OwnFocus.focus_eq_of_atBoundary
    (ownFocus : OwnFocus host answers receiver start front context world)
    (boundary : front.AtBoundary) : context.focus = [receiver] := by
  obtain @⟨earlier, segment, _, _, splits, _, unseparated, _, alone, _⟩ := ownFocus
  -- The segment is empty: its last step would be the one in front, which is a separator.
  rcases segment.eq_nil_or_concat with rfl | ⟨others, step, rfl⟩
  · obtain ⟨same, _⟩ := alone.unique .nil
    exact congrArg Context.focus same
  · rw [splits, List.concat_eq_append, ← List.append_assoc, Pipeline.atBoundary_concat] at boundary
    exact absurd boundary (unseparated step (by simp))

/-- A step that does not end the segment goes on with it. -/
theorem OwnFocus.computed (ownFocus : OwnFocus host answers receiver start front context world)
    (notEnd : step.role ≠ .separator)
    (computed : Computed host answers step context next world after) :
    OwnFocus host answers receiver start (front ++ [step]) next after := by
  obtain @⟨earlier, segment, _, _, rfl, boundary, unseparated, before, alone, resultsEq⟩ := ownFocus
  refine .intro (List.append_assoc earlier segment [step]) boundary ?_ before ?_
    (computed.results_eq.trans resultsEq)
  · exact List.forall_mem_append.mpr ⟨unseparated, List.forall_mem_singleton.mpr notEnd⟩
  · exact alone.append (Reaches.singleton_iff.mpr (computed.apply_alike []))

/-- Behind a step that ends the segment the receiver is in focus, and no step is in the new
segment. -/
theorem OwnFocus.separated (ends : step.role = .separator) {results : List (Value ι)}
    (reaches : Reaches host answers (front ++ [step]) (Context.fresh receiver) start
      { receiver, focus := [receiver], results } world) :
    OwnFocus host answers receiver start (front ++ [step])
      { receiver, focus := [receiver], results } world :=
  .intro (List.append_nil _).symm (Pipeline.atBoundary_concat.mpr ends)
    (List.forall_mem_nil _) reaches .nil rfl

/-! ## Every state of a run -/

/-- What every step of a pipeline in segments keeps, with the steps that have succeeded in front of
those to come. -/
structure Steady (host : Host σ ι) (answers : Answers σ ι) (receiver : Value ι)
    (start : World σ) (front rest : Pipeline ι (Value ι)) (context : Context ι) (world : World σ) :
    Prop where
  reaches : Reaches host answers front (Context.fresh receiver) start context world
  receiver_eq : context.receiver = receiver
  segmented : ∃ atStart, Segmented atStart rest ∧ (atStart = true → context.focus = [receiver])
  ownFocus : OwnFocus host answers receiver start front context world

theorem Steady.fresh (segmented : Segmented true rest) (world : World σ) :
    Steady host answers receiver world [] rest (Context.fresh receiver) world where
  reaches := .nil
  receiver_eq := rfl
  segmented := ⟨true, segmented, fun _ => rfl⟩
  ownFocus := .intro rfl Pipeline.atBoundary_nil (List.forall_mem_nil _) .nil .nil rfl

theorem Steady.step_next
    (steady : Steady host answers receiver start front (step :: rest) context world)
    (applied : step.apply host answers context world = some ((.ok (), next), after)) :
    Steady host answers receiver start (front ++ [step]) rest next after := by
  obtain ⟨reaches, rfl, ⟨atStart, segmented, _⟩, ownFocus⟩ := steady
  have reachesNext := reaches.append (Reaches.singleton_iff.mpr applied)
  rcases segmented.step_cases applied with
    ⟨notEnd, others, computed⟩ | ⟨rfl, others, rfl, rfl⟩ | ⟨rfl, others, rfl, rfl⟩
  · exact ⟨reachesNext, computed.receiver_eq, ⟨false, others, fun isTrue => by cases isTrue⟩,
      ownFocus.computed notEnd computed⟩
  · exact ⟨reachesNext, rfl, ⟨true, others, fun _ => rfl⟩, .separated rfl reachesNext⟩
  · exact ⟨reachesNext, rfl, ⟨true, others, fun _ => rfl⟩, .separated rfl reachesNext⟩

theorem Steady.of_reaches (reaches : Reaches host answers steps context world last after)
    (steady : Steady host answers receiver start front (steps ++ rest) context world) :
    Steady host answers receiver start (front ++ steps) rest last after := by
  -- Each step taken moves from the steps to come to those in front.
  induction reaches generalizing front with
  | nil => exact (List.append_nil front).symm ▸ steady
  | cons applied _ ih =>
      have behind := ih (steady.step_next applied)
      rwa [List.append_assoc] at behind

/-- What holds of the context between the steps of a pipeline that have succeeded and those to
come. -/
structure SlotDiscipline (host : Host σ ι) (answers : Answers σ ι) (receiver : Value ι)
    (start : World σ) (front rest : Pipeline ι (Value ι)) (context : Context ι) (world : World σ) :
    Prop where
  /-- The receiver is the one that the context was made with. -/
  receiver_eq : context.receiver = receiver
  /-- The results extend those of every earlier context. -/
  results_prefix : ∀ {earlier later : Pipeline ι (Value ι)} {middle : Context ι}
      {between : World σ}, front = earlier ++ later →
    Reaches host answers earlier (Context.fresh receiver) start middle between →
      middle.results <+: context.results
  /-- If the next step succeeds, it adds results only if it is a commit, and then what is in
  focus. -/
  results_next : ∀ {step : Step ι (Value ι)} {others : Pipeline ι (Value ι)} {next : Context ι}
      {after : World σ}, rest = step :: others →
    step.apply host answers context world = some ((.ok (), next), after) →
      next.results = context.results ++ step.committed context
  /-- At the start, and behind every commit and reset, the receiver alone is in focus. -/
  focus_at_boundary : front.AtBoundary → context.focus = [receiver]
  /-- In front of the step of a primary the receiver alone is in focus. -/
  focus_at_primary : ∀ {step : Step ι (Value ι)} {others : Pipeline ι (Value ι)},
    rest = step :: others → OfPrimary step → context.focus = [receiver]
  /-- Only the current segment has a part in what is in focus. -/
  ownFocus : OwnFocus host answers receiver start front context world

theorem Segmented.slotDiscipline (segmented : Segmented true (front ++ rest))
    (reaches : Reaches host answers front (Context.fresh receiver) start context world) :
    SlotDiscipline host answers receiver start front rest context world := by
  obtain ⟨-, receiverEq, ⟨atStart, segmentedRest, focusEq⟩, ownFocus⟩ :=
    Steady.of_reaches reaches (Steady.fresh segmented start)
  refine
    { receiver_eq := receiverEq, results_prefix := ?_, results_next := ?_,
      focus_at_boundary := ownFocus.focus_eq_of_atBoundary, focus_at_primary := ?_, ownFocus }
  · intro earlier later middle between frontEq reachesMiddle
    subst frontEq
    rw [List.append_assoc] at segmented
    obtain ⟨_, segmentedLater, _⟩ :=
      (Steady.of_reaches reachesMiddle (Steady.fresh segmented start)).segmented
    obtain ⟨_, _, before, behind⟩ := reaches.split
    obtain ⟨rfl, rfl⟩ := before.unique reachesMiddle
    exact segmentedLater.results_prefix behind
  · intro step others next after restEq applied
    subst restEq
    exact segmentedRest.results_eq applied
  · intro step others restEq ofPrimary
    subst restEq
    cases segmentedRest with
    | value _ _ => exact focusEq rfl
    | trailer trails _ => cases ofPrimary.role_eq.symm.trans trails
    | separator ends _ => cases ofPrimary.role_eq.symm.trans ends

/-- In the pipeline of a source, and in every pipeline inside it, slots and segments keep apart in
all states that the steps of a run lead to. -/
theorem slot_discipline {source : String} {pipeline inner : Pipeline ι (Value ι)}
    (compiled : compile source = .ok pipeline) (nests : pipeline.Nests inner)
    (splits : inner = front ++ rest)
    (reaches : Reaches host answers front (Context.fresh receiver) start context world) :
    SlotDiscipline host answers receiver start front rest context world := by
  obtain ⟨program, _, stepsEq⟩ := compile_eq_ok_iff.mp compiled
  obtain ⟨innerProgram, innerEq⟩ := nests.exists_program ⟨program, stepsEq⟩
  have segmented := innerProgram.segmented_steps (ι := ι)
  rw [innerEq, splits] at segmented
  exact segmented.slotDiscipline reaches

/-- Between the slots of the group in `(1,2)`. -/
theorem slot_discipline_group :
    let slots : Pipeline Unit (Value Unit) :=
      [.replace "int 1" (.int 1), .commit, .replace "int 2" (.int 2), .commit]
    let context : Context Unit := ⟨.nothing, [.nothing], [.int 1]⟩
    compile "(1,2)" = .ok [.group slots, .commit] ∧
      Pipeline.Nests [.group slots, .commit] slots ∧
      ∀ (host : Host Unit Unit) (answers : Answers Unit Unit) (world : World Unit),
        Reaches host answers (slots.take 2) (Context.fresh .nothing) world context world ∧
          SlotDiscipline host answers .nothing world (slots.take 2) (slots.drop 2) context world := by
  intro slots context
  have compiled : compile "(1,2)" = .ok [.group slots, .commit] :=
    @compile_of_read Unit "(1,2)" (.last (.last (.term (.group (.program
      (.andThen (.last (.term (.int 1))) (.last (.last (.term (.int 2)))))))))) rfl
  have nests : Pipeline.Nests [.group slots, .commit] slots :=
    .inside (List.mem_cons_self ..) rfl .self
  refine ⟨compiled, nests, fun host answers world => ?_⟩
  have reaches : Reaches host answers (slots.take 2) (Context.fresh .nothing) world context world :=
    .cons rfl (.cons rfl .nil)
  exact ⟨reaches, slot_discipline compiled nests rfl reaches⟩

end Focal
