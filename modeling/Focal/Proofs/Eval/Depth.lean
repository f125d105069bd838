import Focal.Proofs.Eval.Relation
import Focal.Proofs.Eval.Values

/-!
# Depths

How deep calls may nest decides only whether there is an outcome: a run with a greater depth has
every outcome of the run with a smaller one (`Host.run_mono`), so all depths that are enough lead to
the same outcome (`Host.run_unique`).  Computations that are given a depth are therefore compared by
the outcomes that they come to at some depth (`SameOutcomes`).
-/

namespace Focal

variable {σ ι α β : Type}

/-! ## Computations with fewer outcomes -/

/-- A computation has every outcome of another one, which may be without any. -/
def Below (shallow deep : Run σ α) : Prop :=
  ∀ world outcome, shallow world = some outcome → deep world = some outcome

namespace Below

theorem refl (computation : Run σ α) : Below computation computation :=
  fun _ _ ended => ended

theorem tooDeep (deep : Run σ α) : Below Run.tooDeep deep := by
  intro world outcome ended
  cases ended

theorem bind {shallow deep : Run σ α} (first : Below shallow deep)
    {shallowNext deepNext : α → Run σ β}
    (next : ∀ value, Below (shallowNext value) (deepNext value)) :
    Below (shallow >>= shallowNext) (deep >>= deepNext) := by
  intro world outcome ended
  obtain ⟨⟨value, after⟩, firstEnded, nextEnded⟩ := Option.bind_eq_some_iff.mp ended
  exact Option.bind_eq_some_iff.mpr
    ⟨(value, after), first world _ firstEnded, next value after outcome nextEnded⟩

/-- A note does not matter. -/
theorem noted {shallow deep : Eval σ α} (below : Below shallow deep) (note : String) :
    Below (Eval.noted note shallow) (Eval.noted note deep) := by
  intro world outcome ended
  rw [Eval.noted_apply] at ended ⊢
  obtain ⟨computed, shallowEnded, rfl⟩ := Option.map_eq_some_iff.mp ended
  rw [below world computed shallowEnded, Option.map_some]

end Below

/-- Having fewer outcomes, as a relation between computations. -/
def belowness : RunRelation σ σ where
  Relates := Below
  pure _ := Below.refl _
  bind first next := first.bind next
  allocate := Below.refl _

/-- The rule for `bind` for computations that may fail. -/
theorem Below.bindExcept {shallow deep : Eval σ α} (first : Below shallow deep)
    {shallowNext deepNext : α → Eval σ β}
    (next : ∀ value, Below (shallowNext value) (deepNext value)) :
    Below (shallow >>= shallowNext : Eval σ β) (deep >>= deepNext : Eval σ β) :=
  RunRelation.bindExcept (show belowness.RelatesEval shallow deep from first) next

/-! ## Answers to smaller depths -/

/-- Answers have every outcome of others. -/
abbrev AnswersBelow (shallow deep : Answers σ ι) : Prop :=
  belowness.RelatesAnswers shallow deep

namespace AnswersBelow

variable {shallow deep : Answers σ ι}

theorem react (below : AnswersBelow shallow deep) (reaction : Reaction σ ι α) :
    Below (shallow.react reaction) (deep.react reaction) := by
  induction reaction with
  | done result => exact Below.refl _
  | read next ih => exact (Below.refl _).bind fun state => ih state
  | write state next ih => exact (Below.refl _).bind fun _ => ih
  | allocate next ih => exact (Below.refl _).bind fun identity => ih identity
  | call target arguments next ih =>
      exact Below.bind (RunRelation.RelatesAnswers.call below target arguments) ih
  | lookup target name next ih =>
      exact Below.bind (RunRelation.RelatesAnswers.lookup below target name) ih

theorem hosts (below : AnswersBelow shallow deep) (host : Host σ ι) :
    belowness.RelatesHosts host shallow host deep where
  call _ _ := below.react _
  find _ _ := below.react _
  mapStep _ _ _ := below.react _
  spliceStep _ _ _ := below.react _
  modifyStep _ _ := below.react _

theorem results (below : AnswersBelow shallow deep) (host : Host σ ι)
    (pipeline : Pipeline ι (Value ι)) (receiver : Value ι) :
    Below (Pipeline.results host shallow pipeline receiver)
      (Pipeline.results host deep pipeline receiver) :=
  RunRelation.results_related below (below.hosts host) pipeline receiver

end AnswersBelow

theorem Host.answers_mono (host : Host σ ι) {depth deeper : Nat} (le : depth ≤ deeper) :
    AnswersBelow (host.answers depth) (host.answers deeper) := by
  induction depth generalizing deeper with
  | zero =>
      refine ⟨fun callable arguments => Below.tooDeep _, fun container name => ?_⟩
      cases container with
      | bindings entries => cases deeper <;> exact Below.refl _
      | native _ handle => exact Below.tooDeep _
  | succ depth ih =>
      obtain _ | deeper := deeper
      · exact absurd le (Nat.not_succ_le_zero depth)
      have below := ih (Nat.le_of_succ_le_succ le)
      constructor
      · intro callable arguments
        cases callable with
        | native _ handle => exact below.react _
        | closure body receiver => exact below.results host body _
      · intro container name
        cases container with
        | bindings entries => exact Below.refl _
        | native _ handle => exact below.react _

/-- A run has every outcome of the run with a smaller depth. -/
theorem Host.run_mono (host : Host σ ι) {depth deeper : Nat} (le : depth ≤ deeper)
    (pipeline : Pipeline ι (Value ι)) (receiver : Value ι) :
    Below (host.run depth pipeline receiver) (host.run deeper pipeline receiver) :=
  (host.answers_mono le).results host pipeline receiver

/-! ## Outcomes at some depth -/

/-- A computation that is given a depth has an outcome from a world, at some depth. -/
def ComesTo (computation : Nat → Eval σ α) (world : World σ)
    (outcome : Except RunError α × World σ) : Prop :=
  ∃ depth, computation depth world = some outcome

/-- The depths that are enough lead to the same outcome. -/
theorem ComesTo.unique {computation : Nat → Eval σ α} {world : World σ}
    {outcome other : Except RunError α × World σ}
    (mono : ∀ depth deeper, depth ≤ deeper → Below (computation depth) (computation deeper))
    (comes : ComesTo computation world outcome) (comesToOther : ComesTo computation world other) :
    outcome = other := by
  obtain ⟨depth, ended⟩ := comes
  obtain ⟨deeper, endedToo⟩ := comesToOther
  have atMax := mono _ _ (Nat.le_max_left depth deeper) world outcome ended
  have otherAtMax := mono _ _ (Nat.le_max_right depth deeper) world other endedToo
  exact Option.some.inj (atMax.symm.trans otherAtMax)

theorem Host.run_unique (host : Host σ ι) {pipeline : Pipeline ι (Value ι)} {receiver : Value ι}
    {world : World σ} {outcome other : Except RunError (List (Value ι)) × World σ}
    (comes : ComesTo (host.run · pipeline receiver) world outcome)
    (comesToOther : ComesTo (host.run · pipeline receiver) world other) : outcome = other :=
  comes.unique (fun _ _ le => host.run_mono le pipeline receiver) comesToOther

/-- Two computations that are given a depth have the same outcomes: the results or the error, the
state of the host, and the identities made. -/
def SameOutcomes (first second : Nat → Eval σ α) : Prop :=
  ∀ world outcome, ComesTo first world outcome ↔ ComesTo second world outcome

/-- Computations that differ by one level of depth have the same outcomes. -/
theorem SameOutcomes.of_below {first second : Nat → Eval σ α}
    (below : ∀ depth, Below (first depth) (second depth))
    (above : ∀ depth, Below (second depth) (first (depth + 1))) : SameOutcomes first second := by
  intro world outcome
  constructor
  · rintro ⟨depth, ended⟩
    exact ⟨depth, below depth world outcome ended⟩
  · rintro ⟨depth, ended⟩
    exact ⟨depth + 1, above depth world outcome ended⟩

end Focal
