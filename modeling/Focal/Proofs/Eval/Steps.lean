import Focal.Proofs.Eval.Values

/-!
# Runs step by step

What it means that a computation ended in one way or the other, read backwards: a sequence of two
ended well if both parts did, and failed if the first part did or the second did behind it.  A step
that computes from the current value fails if the computation does (`Context.transform_eq_ok_iff`,
`Context.transform_eq_error_iff`).

`Reaches` follows the successful steps of a pipeline from one context and world to others.  A run
succeeds if it reaches the end of its pipeline (`Pipeline.run_eq_ok_iff`), and fails if it reaches a
step that does (`Pipeline.run_eq_error_iff`), whatever stands behind that step.
-/

namespace Focal

variable {σ ι α β : Type}

/-! ## Outcomes of computations -/

theorem Run.bind_eq_some_iff {first : Run σ α} {next : α → Run σ β} {world : World σ}
    {outcome : β × World σ} :
    (first >>= next) world = some outcome ↔
      ∃ value between, first world = some (value, between) ∧ next value between = some outcome := by
  refine Option.bind_eq_some_iff.trans ?_
  simp only [Prod.exists]

theorem Run.bind_of_eq_some {first : Run σ α} {next : α → Run σ β} {world between : World σ}
    {value : α} (ended : first world = some (value, between)) :
    (first >>= next) world = next value between := by
  simp only [bind, StateT.bind, ended, Option.bind]

theorem Eval.bind_eq_some_iff {first : Eval σ α} {next : α → Eval σ β} {world : World σ}
    {outcome : Except RunError β × World σ} :
    (first >>= next) world = some outcome ↔
      (∃ error, first world = some (.error error, outcome.2) ∧ outcome.1 = .error error) ∨
        ∃ value between, first world = some (.ok value, between) ∧
          next value between = some outcome := by
  rcases outcome with ⟨result, after⟩
  refine Run.bind_eq_some_iff.trans ?_
  constructor
  · rintro ⟨found, between, ended, followed⟩
    cases found with
    | ok value => exact .inr ⟨value, between, ended, followed⟩
    | error error =>
        obtain ⟨rfl, rfl⟩ := Prod.mk.inj (Option.some.inj followed)
        exact .inl ⟨error, ended, rfl⟩
  · rintro (⟨error, ended, rfl⟩ | ⟨value, between, ended, followed⟩)
    · exact ⟨.error error, after, ended, rfl⟩
    · exact ⟨.ok value, between, ended, followed⟩

theorem Eval.bind_eq_error_iff {first : Eval σ α} {next : α → Eval σ β} {world after : World σ}
    {error : RunError} :
    (first >>= next) world = some (.error error, after) ↔
      first world = some (.error error, after) ∨
        ∃ value between, first world = some (.ok value, between) ∧
          next value between = some (.error error, after) := by
  simp [Eval.bind_eq_some_iff]

/-- What goes on from a computation that cannot fail fails only behind it. -/
theorem Eval.lift_bind_eq_error_iff {first : Run σ α} {next : α → Eval σ β} {world after : World σ}
    {error : RunError} :
    ((liftM first : Eval σ α) >>= next) world = some (.error error, after) ↔
      ∃ value between, first world = some (value, between) ∧
        next value between = some (.error error, after) := by
  have lifted : ((liftM first : Eval σ α) >>= next) world =
      (first world).bind fun found => next found.1 found.2 := by
    change Option.bind (Option.bind (first world) _) _ = _
    cases first world <;> rfl
  rw [lifted, Option.bind_eq_some_iff, Prod.exists]

section Transform

variable {context next : Context ι} {world after : World σ} {error : RunError}
  {compute : Context ι → Value ι → Eval σ (List (Value ι))}

theorem Context.transform_eq_ok_iff :
    context.transform compute world = some ((.ok (), next), after) ↔
      ∃ values, compute context.dropCurrent context.current world = some (.ok values, after) ∧
        next = context.dropCurrent.extend values := by
  refine Run.bind_eq_some_iff.trans ?_
  constructor
  · rintro ⟨result, between, computed, followed⟩
    cases result with
    | ok values =>
        obtain ⟨sameNext, rfl⟩ := Prod.mk.inj (Option.some.inj followed)
        exact ⟨values, computed, (Prod.mk.inj sameNext).2.symm⟩
    | error error => cases followed
  · rintro ⟨values, computed, rfl⟩
    exact ⟨.ok values, after, computed, rfl⟩

/-- A computation that fails leaves the context without its current value. -/
theorem Context.transform_eq_error_iff :
    context.transform compute world = some ((.error error, next), after) ↔
      compute context.dropCurrent context.current world = some (.error error, after) ∧
        next = context.dropCurrent := by
  refine Run.bind_eq_some_iff.trans ?_
  constructor
  · rintro ⟨result, between, computed, followed⟩
    cases result with
    | ok values => cases followed
    | error error =>
        obtain ⟨sameNext, rfl⟩ := Prod.mk.inj (Option.some.inj followed)
        obtain ⟨sameError, rfl⟩ := Prod.mk.inj sameNext
        obtain rfl := Except.error.inj sameError
        exact ⟨computed, rfl⟩
  · rintro ⟨computed, rfl⟩
    exact ⟨.error error, after, computed, rfl⟩

end Transform

/-! ## Successful steps -/

section Reaches

variable (host : Host σ ι) (answers : Answers σ ι)

/-- Steps that are applied one after another, and all succeed, lead from a context and a world to
others. -/
inductive Reaches : Pipeline ι (Value ι) → Context ι → World σ → Context ι → World σ → Prop
  | nil {context : Context ι} {world : World σ} : Reaches [] context world context world
  | cons {step : Step ι (Value ι)} {rest : Pipeline ι (Value ι)} {context middle last : Context ι}
      {world between after : World σ}
      (applied : step.apply host answers context world = some ((.ok (), middle), between))
      (others : Reaches rest middle between last after) :
      Reaches (step :: rest) context world last after

variable {host answers} {first second front : Pipeline ι (Value ι)}
  {context middle last left : Context ι} {world between after : World σ} {error : RunError}

theorem Reaches.append (before : Reaches host answers first context world middle between)
    (behind : Reaches host answers second middle between last after) :
    Reaches host answers (first ++ second) context world last after := by
  induction before with
  | nil => exact behind
  | cons applied _ ih => exact .cons applied (ih behind)

/-- What steps lead to has been led to by the first of them, and from there by the others. -/
theorem Reaches.split (reaches : Reaches host answers (first ++ second) context world last after) :
    ∃ middle between, Reaches host answers first context world middle between ∧
      Reaches host answers second middle between last after := by
  induction first generalizing context world with
  | nil => exact ⟨context, world, .nil, reaches⟩
  | cons step rest ih =>
      cases reaches with
      | cons applied others =>
          obtain ⟨middle, between, before, behind⟩ := ih others
          exact ⟨middle, between, .cons applied before, behind⟩

theorem Reaches.singleton_iff {step : Step ι (Value ι)} :
    Reaches host answers [step] context world last after ↔
      step.apply host answers context world = some ((.ok (), last), after) := by
  constructor
  · rintro (_ | ⟨applied, _ | _⟩)
    exact applied
  · intro applied
    exact .cons applied .nil

theorem Reaches.unique {other : Context ι} {otherAfter : World σ}
    (reaches : Reaches host answers front context world last after)
    (reachesToo : Reaches host answers front context world other otherAfter) :
    last = other ∧ after = otherAfter := by
  induction reaches with
  | nil =>
      cases reachesToo
      exact ⟨rfl, rfl⟩
  | cons applied _ ih =>
      cases reachesToo with
      | cons appliedToo others =>
          obtain ⟨sameContext, rfl⟩ := Prod.mk.inj (Option.some.inj (applied.symm.trans appliedToo))
          obtain ⟨-, rfl⟩ := Prod.mk.inj sameContext
          exact ih others

/-- A run goes on from where its first steps lead. -/
theorem Reaches.run_append (reaches : Reaches host answers front context world middle between)
    (rest : Pipeline ι (Value ι)) :
    Pipeline.run host answers (front ++ rest) context world =
      Pipeline.run host answers rest middle between := by
  induction reaches with
  | nil => rfl
  | cons applied _ ih =>
      rw [List.cons_append, Pipeline.run, ← ih]
      simp only [bind, StateT.bind, applied, Option.bind]

theorem Pipeline.run_eq_ok_iff {steps : Pipeline ι (Value ι)} :
    Pipeline.run host answers steps context world = some ((.ok (), last), after) ↔
      Reaches host answers steps context world last after := by
  constructor
  · intro ran
    induction steps generalizing context world with
    | nil =>
        rw [Pipeline.run] at ran
        obtain ⟨sameLast, rfl⟩ := Prod.mk.inj (Option.some.inj ran)
        obtain ⟨-, rfl⟩ := Prod.mk.inj sameLast
        exact .nil
    | cons step rest ih =>
        rw [Pipeline.run] at ran
        obtain ⟨⟨result, middle⟩, between, applied, followed⟩ := Run.bind_eq_some_iff.mp ran
        cases result with
        | ok => exact .cons applied (ih followed)
        | error error => cases followed
  · intro reaches
    have ran := reaches.run_append []
    rw [List.append_nil, Pipeline.run] at ran
    exact ran

/-- A run fails in the first step that does, and with the note of this step; no step behind it is
applied. -/
theorem Pipeline.run_eq_error_iff {steps : Pipeline ι (Value ι)} :
    Pipeline.run host answers steps context world = some ((.error error, left), after) ↔
      ∃ front step rest middle between inner, steps = front ++ step :: rest ∧
        Reaches host answers front context world middle between ∧
        step.apply host answers middle between = some ((.error inner, left), after) ∧
        error = inner.addNote step.note := by
  constructor
  · intro ran
    induction steps generalizing context world with
    | nil =>
        rw [Pipeline.run] at ran
        cases ran
    | cons step rest ih =>
        rw [Pipeline.run] at ran
        obtain ⟨⟨result, middle⟩, between, applied, followed⟩ := Run.bind_eq_some_iff.mp ran
        cases result with
        | ok =>
            obtain ⟨front, failing, others, context, world, inner, rfl, reaches, failed, rfl⟩ :=
              ih followed
            exact ⟨step :: front, failing, others, context, world, inner, rfl,
              .cons applied reaches, failed, rfl⟩
        | error inner =>
            obtain ⟨sameLeft, rfl⟩ := Prod.mk.inj (Option.some.inj followed)
            obtain ⟨sameError, rfl⟩ := Prod.mk.inj sameLeft
            exact ⟨[], step, rest, context, world, inner, rfl, .nil, applied,
              (Except.error.inj sameError).symm⟩
  · rintro ⟨front, step, rest, middle, between, inner, rfl, reaches, failed, rfl⟩
    rw [reaches.run_append, Pipeline.run]
    exact Run.bind_eq_some_iff.mpr ⟨_, after, failed, rfl⟩

/-! ## Runs on contexts of their own -/

variable {pipeline : Pipeline ι (Value ι)} {receiver : Value ι}

theorem Pipeline.results_apply (pipeline : Pipeline ι (Value ι)) (receiver : Value ι)
    (world : World σ) :
    Pipeline.results host answers pipeline receiver world =
      (Pipeline.run host answers pipeline (Context.fresh receiver) world).map
        (Prod.map Outcome.results id) := by
  change Option.bind (Option.bind (Pipeline.run host answers pipeline _ world) _) _ = _
  cases Pipeline.run host answers pipeline (Context.fresh receiver) world <;> rfl

theorem Pipeline.results_eq_ok_iff {values : List (Value ι)} :
    Pipeline.results host answers pipeline receiver world = some (.ok values, after) ↔
      ∃ last, Reaches host answers pipeline (Context.fresh receiver) world last after ∧
        last.results = values := by
  simp only [Pipeline.results_apply, Option.map_eq_some_iff, ← Pipeline.run_eq_ok_iff]
  constructor
  · rintro ⟨⟨⟨result, last⟩, other⟩, ran, ended⟩
    obtain ⟨resultEq, rfl⟩ := Prod.mk.inj ended
    cases result with
    | ok => exact ⟨last, ran, Except.ok.inj resultEq⟩
    | error error => cases resultEq
  · rintro ⟨last, ran, rfl⟩
    exact ⟨_, ran, rfl⟩

theorem Pipeline.results_eq_error_iff :
    Pipeline.results host answers pipeline receiver world = some (.error error, after) ↔
      ∃ left, Pipeline.run host answers pipeline (Context.fresh receiver) world =
        some ((.error error, left), after) := by
  simp only [Pipeline.results_apply, Option.map_eq_some_iff]
  constructor
  · rintro ⟨⟨⟨result, left⟩, other⟩, ran, ended⟩
    obtain ⟨resultEq, rfl⟩ := Prod.mk.inj ended
    cases result with
    | ok => cases resultEq
    | error error =>
        obtain rfl := Except.error.inj resultEq
        exact ⟨left, ran⟩
  · rintro ⟨left, ran⟩
    exact ⟨_, ran, rfl⟩

end Reaches

end Focal
