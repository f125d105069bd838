import Focal.Proofs.Eval.Steps

/-!
# Pipelines as compositions of their steps

A run applies the steps of its pipeline one after another, each to the context that the one before
it left, and goes no further than the first step that fails.  So the run of two pipelines joined is
the run of the second from where the first one ended (`Pipeline.run_append`), and a run ends in one
of three ways: all steps succeed, one of them fails behind others that succeed, or one of them has
no outcome there because calls nest too deeply (`Pipeline.run_eq_none_iff`).

A step that fails may leave a changed context.  One that computes from the current value has taken
this value out of the focus before, and one that the host defines leaves what the host says; no
other step fails (`Step.leavesBehind_of_error`).
-/

namespace Focal

variable {σ ι : Type} {host : Host σ ι} {answers : Answers σ ι} {context left : Context ι}
  {world after : World σ} {error : RunError}

/-! ## Joined pipelines -/

/-- Go on from the context of an outcome, unless it is a failure. -/
def Outcome.andThen (outcome : Outcome ι) (next : Context ι → Run σ (Outcome ι)) :
    Run σ (Outcome ι) :=
  match outcome with
  | (.ok (), context) => next context
  | (.error error, left) => return (.error error, left)

theorem Pipeline.run_append (first second : Pipeline ι (Value ι)) (context : Context ι) :
    Pipeline.run host answers (first ++ second) context =
      Pipeline.run host answers first context >>=
        (Outcome.andThen · (Pipeline.run host answers second)) := by
  induction first generalizing context with
  | nil =>
      rw [List.nil_append, Pipeline.run, pure_bind]
      rfl
  | cons step rest ih =>
      rw [List.cons_append, Pipeline.run, Pipeline.run, bind_assoc]
      congr 1
      funext outcome
      rcases outcome with ⟨result, next⟩
      cases result with
      | ok => exact ih next
      | error error => rfl

/-! ## Runs without an outcome -/

theorem Run.bind_eq_none_iff {α β : Type} {first : Run σ α} {next : α → Run σ β} :
    (first >>= next) world = none ↔
      first world = none ∨
        ∃ value between, first world = some (value, between) ∧ next value between = none := by
  change (first world).bind (fun found => next found.1 found.2) = none ↔ _
  cases first world with
  | none => simp
  | some found =>
      constructor
      · exact fun endless => .inr ⟨found.1, found.2, rfl, endless⟩
      · rintro (endless | ⟨value, between, foundEq, endless⟩)
        · cases endless
        · rwa [Option.some.inj foundEq]

/-- A run has no outcome if and only if it comes to a step that has none. -/
theorem Pipeline.run_eq_none_iff {steps : Pipeline ι (Value ι)} :
    Pipeline.run host answers steps context world = none ↔
      ∃ front step rest middle between, steps = front ++ step :: rest ∧
        Reaches host answers front context world middle between ∧
        step.apply host answers middle between = none := by
  constructor
  · intro ran
    induction steps generalizing context world with
    | nil =>
        rw [Pipeline.run] at ran
        cases ran
    | cons step rest ih =>
        rw [Pipeline.run] at ran
        rcases Run.bind_eq_none_iff.mp ran with endless | ⟨⟨result, next⟩, between, applied, ran⟩
        · exact ⟨[], step, rest, context, world, rfl, .nil, endless⟩
        cases result with
        | ok =>
            obtain ⟨front, inner, others, middle, last, rfl, reaches, endless⟩ := ih ran
            exact ⟨step :: front, inner, others, middle, last, rfl, .cons applied reaches, endless⟩
        | error error => cases ran
  · rintro ⟨front, step, rest, middle, between, rfl, reaches, endless⟩
    rw [reaches.run_append, Pipeline.run]
    exact Run.bind_eq_none_iff.mpr (.inl endless)

/-! ## What a failing step leaves -/

/-- The context that a failing step leaves of the one it was applied to.  A fixed value never fails;
a computation from the current value leaves the context without that value, if there was one; and a
step of the host leaves the context that the host gave back with the error. -/
def Step.LeavesBehind (host : Host σ ι) (answers : Answers σ ι) (step : Step ι (Value ι))
    (context : Context ι) (world : World σ) (error : RunError) (left : Context ι)
    (after : World σ) : Prop :=
  match step.kind with
  | .replace => False
  | .map | .splice => left = { context with focus := context.focus.dropLast }
  | .modify => ∃ label handle, step = .hostModify label handle ∧
      answers.react (host.modifyStep handle context) world = some ((.error error, left), after)

theorem Step.leavesBehind_of_error {step : Step ι (Value ι)}
    (failed : step.apply host answers context world = some ((.error error, left), after)) :
    step.LeavesBehind host answers context world error left after := by
  cases step with
  | replace | commit | reset =>
      rw [Step.apply] at failed
      cases failed
  | hostModify label handle =>
      rw [Step.apply] at failed
      exact ⟨label, handle, rfl, failed⟩
  | _ =>
      rw [Step.apply] at failed
      exact (Context.transform_eq_error_iff.mp failed).2

/-- A run fails if and only if one of its steps does behind others that succeed.  The error is the
one of this step, with one more note that names the step; no step behind it is applied, so that any
could stand there; and the context is as the steps in front left it, but for what the failing step
itself does.  A run that succeeds is the composition of its steps, a run without an outcome comes to
a step without one, and the run of two pipelines joined is the run of the one and then of the
other. -/
theorem Pipeline.run_composed (host : Host σ ι) (answers : Answers σ ι)
    (steps : Pipeline ι (Value ι)) (context : Context ι) (world : World σ) :
    (∀ error left after,
      Pipeline.run host answers steps context world = some ((.error error, left), after) ↔
        ∃ front step rest middle between origin, steps = front ++ step :: rest ∧
          Reaches host answers front context world middle between ∧
          step.apply host answers middle between = some ((.error origin, left), after) ∧
          error.cause = origin.cause ∧
          error.notes = origin.notes ++ ["while running `" ++ step.label ++ "`"] ∧
          step.LeavesBehind host answers middle between origin left after ∧
          ∀ others, Pipeline.run host answers (front ++ step :: others) context world =
            Pipeline.run host answers steps context world) ∧
    (∀ last after, Pipeline.run host answers steps context world = some ((.ok (), last), after) ↔
      Reaches host answers steps context world last after) ∧
    (Pipeline.run host answers steps context world = none ↔
      ∃ front step rest middle between, steps = front ++ step :: rest ∧
        Reaches host answers front context world middle between ∧
        step.apply host answers middle between = none) ∧
    ∀ others, Pipeline.run host answers (steps ++ others) context =
      Pipeline.run host answers steps context >>=
        (Outcome.andThen · (Pipeline.run host answers others)) := by
  refine ⟨fun error left after => ⟨?_, ?_⟩, fun _ _ => Pipeline.run_eq_ok_iff,
    Pipeline.run_eq_none_iff, fun others => Pipeline.run_append steps others context⟩
  · intro ran
    obtain ⟨front, step, rest, middle, between, origin, rfl, reaches, failed, rfl⟩ :=
      Pipeline.run_eq_error_iff.mp ran
    refine ⟨front, step, rest, middle, between, origin, rfl, reaches, failed, rfl, rfl,
      Step.leavesBehind_of_error failed, fun others => ?_⟩
    rw [ran]
    exact Pipeline.run_eq_error_iff.mpr
      ⟨front, step, others, middle, between, origin, rfl, reaches, failed, rfl⟩
  · rintro ⟨front, step, rest, middle, between, origin, rfl, reaches, failed, causeEq, notesEq, -⟩
    obtain ⟨cause, notes⟩ := error
    obtain rfl : cause = origin.cause := causeEq
    obtain rfl := notesEq
    exact Pipeline.run_eq_error_iff.mpr
      ⟨front, step, rest, middle, between, origin, rfl, reaches, failed, rfl⟩

end Focal
