import Focal.Proofs.Eval.Log
import Focal.Proofs.Eval.Termination

/-!
# Runs without a receiver

A context starts with the receiver in focus, and every commit and reset puts it there again.  A
program that refers to the receiver nowhere (`Program.usesReceiver`) still gives nothing of it away:
its tree is evaluated to one outcome, whatever the receiver and the host are (`Query.Fixed`), and so
is its pipeline run (`run_without_receiver`).  The host is not asked for anything on the way, and
the results are plain values.
-/

namespace Focal

open Syntax

variable {σ ι : Type}

/-! ## References to the receiver -/

namespace Syntax

mutual

/-- Whether a term refers to the receiver: it has a primary that is the receiver, a name that is
looked up on it, or a block that keeps it. -/
def Term.usesReceiver : Term → Bool
  | .receiver | .name _ | .block _ => true
  | .str _ | .int _ | .float _ => false
  | .group body => body.usesReceiver
  | .call target arguments => target.usesReceiver || arguments.usesReceiver
  | .member target _ => target.usesReceiver

/-- Whether a segment refers to the receiver. -/
def Segment.usesReceiver : Segment → Bool
  | .empty => false
  | .term tree => tree.usesReceiver

/-- Whether a slot refers to the receiver. -/
def Slot.usesReceiver : Slot → Bool
  | .last segment => segment.usesReceiver
  | .andThen segment rest => segment.usesReceiver || rest.usesReceiver

/-- Whether a program refers to the receiver. -/
def Program.usesReceiver : Program → Bool
  | .last slot => slot.usesReceiver
  | .andThen slot rest => slot.usesReceiver || rest.usesReceiver

/-- Whether a body refers to the receiver. -/
def Body.usesReceiver : Body → Bool
  | .blank => false
  | .program tree => tree.usesReceiver

end

end Syntax

/-! ## Fixed outcomes -/

/-- All values of an outcome are plain; an error has none. -/
def PlainOutcome (outcome : Except RunError (List (Value ι))) : Prop :=
  ∀ values, outcome = .ok values → ∀ value ∈ values, value.isPlain = true

/-- A computation of values from the answers of a host and a receiver. -/
abbrev Query (ι : Type) : Type 1 :=
  (σ : Type) → Answers σ ι → Value ι → Eval σ (List (Value ι))

/-- A computation comes to one outcome with all answers and on all receivers, and does nothing else.
The values of the outcome are plain. -/
def Query.Fixed (query : Query ι) : Prop :=
  ∃ outcome, PlainOutcome outcome ∧
    ∀ σ answers receiver, query σ answers receiver = Eval.ofExcept outcome

namespace Query.Fixed

variable {query : Query ι}

theorem pure {values : List (Value ι)} (plain : ∀ value ∈ values, value.isPlain = true) :
    Query.Fixed fun _ _ _ => Pure.pure values := by
  refine ⟨.ok values, ?_, fun _ _ _ => rfl⟩
  rintro _ ⟨⟩
  exact plain

theorem throw (error : RunError) :
    Query.Fixed (ι := ι) fun _ _ _ => MonadExcept.throw error := by
  refine ⟨.error error, ?_, fun _ _ _ => rfl⟩
  rintro _ ⟨⟩

theorem bind (first : query.Fixed) {next : List (Value ι) → Query ι}
    (fixed : ∀ values, (∀ value ∈ values, value.isPlain = true) → (next values).Fixed) :
    Query.Fixed fun σ answers receiver =>
      query σ answers receiver >>= fun values => next values σ answers receiver := by
  obtain ⟨outcome, plain, queryEq⟩ := first
  cases outcome with
  | error error =>
      refine ⟨.error error, plain, fun σ answers receiver => ?_⟩
      simp only [queryEq]
      rfl
  | ok values =>
      obtain ⟨outcome, nextPlain, nextEq⟩ := fixed values (plain values rfl)
      refine ⟨outcome, nextPlain, fun σ answers receiver => ?_⟩
      simp only [queryEq]
      exact nextEq σ answers receiver

theorem noted (fixed : query.Fixed) (note : String) :
    Query.Fixed fun σ answers receiver => Eval.noted note (query σ answers receiver) := by
  obtain ⟨outcome, plain, queryEq⟩ := fixed
  refine ⟨outcome.mapError (·.addNote note), ?_, fun σ answers receiver => ?_⟩
  · cases outcome with
    | ok values => exact plain
    | error error => exact fun _ isOk => by cases isOk
  · simp only [queryEq]
    funext world
    rw [Eval.noted_apply]
    rfl

end Query.Fixed

/-- A plain value cannot be called. -/
theorem Value.exists_toCallable_eq_error {value : Value ι} (plain : value.isPlain = true) :
    ∃ error, value.toCallable = .error error := by
  cases value with
  | nothing | int | float | str => exact ⟨_, rfl⟩
  | callable | container | object => cases plain

/-- A plain value holds no names. -/
theorem Value.exists_toContainer_eq_error {value : Value ι} (plain : value.isPlain = true) :
    ∃ error, value.toContainer = .error error := by
  cases value with
  | nothing | int | float | str => exact ⟨_, rfl⟩
  | callable | container | object => cases plain

/-- The last of some plain values, or a nothing, is plain. -/
theorem Value.isPlain_getLastD {values : List (Value ι)}
    (plain : ∀ value ∈ values, value.isPlain = true) :
    (values.getLastD .nothing).isPlain = true := by
  rw [List.getLastD_eq_getLast?]
  cases last : values.getLast? with
  | none => rfl
  | some value => exact plain value (List.mem_of_getLast? last)

/-- A trailer acts on the last value of its target and puts its results behind the others. -/
theorem Query.Fixed.trailer {target : Query ι} (fixed : target.Fixed)
    (computed : Value ι → Query ι)
    (computes : ∀ current : Value ι, current.isPlain = true → (computed current).Fixed)
    (note : String) :
    Query.Fixed fun σ answers receiver => do
      let values ← target σ answers receiver
      let results ← Eval.noted note (computed (values.getLastD .nothing) σ answers receiver)
      return values.dropLast ++ results := by
  refine fixed.bind fun values plain => ?_
  refine ((computes _ (Value.isPlain_getLastD plain)).noted note).bind
    fun results plainResults => ?_
  refine .pure (List.forall_mem_append.mpr ⟨fun value kept => ?_, plainResults⟩)
  exact plain value (List.dropLast_subset values kept)

/-! ## Trees without references to the receiver -/

namespace Syntax

mutual

/-- A term that does not refer to the receiver comes to one outcome.  Its calls and members fail,
because the values in front of them are plain. -/
theorem Term.fixed (term : Term) (unused : term.usesReceiver = false) :
    Query.Fixed (ι := ι) fun _ answers receiver => term.values answers receiver := by
  match term with
  | .receiver | .name _ | .block _ => cases unused
  | .str _ | .int _ | .float _ | .group .blank =>
      exact .pure (List.forall_mem_singleton.mpr rfl)
  | .group (.program program) => exact (program.fixed unused).noted _
  | .call target .blank =>
      refine (target.fixed (Bool.or_eq_false_iff.mp unused).1).trailer
        (fun current _ answers _ => do
          let callable ← Eval.ofExcept current.toCallable
          answers.invoke callable [])
        (fun current plain => ?_) _
      obtain ⟨error, lacks⟩ := Value.exists_toCallable_eq_error plain
      rw [lacks]
      exact .throw error
  | .call target (.program arguments) =>
      refine (target.fixed (Bool.or_eq_false_iff.mp unused).1).trailer
        (fun current _ answers receiver => do
          let callable ← Eval.ofExcept current.toCallable
          answers.invoke callable (← arguments.values answers receiver))
        (fun current plain => ?_) _
      obtain ⟨error, lacks⟩ := Value.exists_toCallable_eq_error plain
      rw [lacks]
      exact .throw error
  | .member target name =>
      refine (target.fixed unused).trailer
        (fun current _ answers _ => do return [← answers.lookup current name])
        (fun current plain => ?_) _
      obtain ⟨error, lacks⟩ := Value.exists_toContainer_eq_error plain
      simp only [Answers.lookup, lacks]
      exact .throw error

theorem Slot.fixed (slot : Slot) (unused : slot.usesReceiver = false) :
    Query.Fixed (ι := ι) fun _ answers receiver => slot.values answers receiver := by
  match slot with
  | .last .empty => exact .pure (List.forall_mem_singleton.mpr rfl)
  | .last (.term term) => exact term.fixed unused
  | .andThen .empty rest => exact rest.fixed (Bool.or_eq_false_iff.mp unused).2
  | .andThen (.term term) rest =>
      obtain ⟨termUnused, restUnused⟩ := Bool.or_eq_false_iff.mp unused
      exact (term.fixed termUnused).bind fun _ _ => rest.fixed restUnused

theorem Program.fixed (program : Program) (unused : program.usesReceiver = false) :
    Query.Fixed (ι := ι) fun _ answers receiver => program.values answers receiver := by
  match program with
  | .last (.last .empty) => exact .pure (List.forall_mem_nil _)
  | .last (.last (.term term)) => exact (Slot.last (.term term)).fixed unused
  | .last (.andThen segment rest) => exact (Slot.andThen segment rest).fixed unused
  | .andThen slot rest =>
      obtain ⟨slotUnused, restUnused⟩ := Bool.or_eq_false_iff.mp unused
      refine (slot.fixed slotUnused).bind fun values plain => ?_
      exact (rest.fixed restUnused).bind fun others plainOthers =>
        .pure (List.forall_mem_append.mpr ⟨plain, plainOthers⟩)

end

end Syntax

/-! ## Runs -/

/-- A compiled source that refers to the receiver nowhere has one outcome, with plain values or an
error, on every receiver and with every host.  Its runs leave the world as it was, and so does a run
with a log of what the host is asked for: there is nothing in it. -/
theorem run_without_receiver {source : String} {pipeline : Pipeline ι (Value ι)}
    {program : Program} (compiled : compile source = .ok pipeline)
    (derives : Derives (.program program) source.toList [])
    (unused : program.usesReceiver = false) :
    ∃ outcome : Except RunError (List (Value ι)),
      (∀ values, outcome = .ok values → ∀ value ∈ values, value.isPlain = true) ∧
      (∀ {σ : Type} (host : Host σ ι) (depth : Nat) (receiver : Value ι) (world : World σ),
        host.run depth pipeline receiver world = some (outcome, world)) ∧
      ∀ {σ : Type} (host : Host σ ι) (depth : Nat) (receiver : Value ι) (world : World σ),
        host.logged.run depth pipeline receiver ⟨([], world.host), world.allocated⟩ =
          some (outcome, ⟨([], world.host), world.allocated⟩) := by
  obtain ⟨other, otherDerives, rfl⟩ := compile_eq_ok_iff.mp compiled
  obtain rfl := otherDerives.unique derives
  obtain ⟨outcome, plain, fixed⟩ := Program.fixed (ι := ι) other unused
  have ran {σ : Type} (host : Host σ ι) (depth : Nat) (receiver : Value ι) (world : World σ) :
      host.run depth other.steps receiver world = some (outcome, world) := by
    rw [Host.run, results_steps]
    exact congrFun (fixed σ (host.answers depth) receiver) world
  exact ⟨outcome, plain, ran, fun host depth receiver world => ran host.logged depth receiver _⟩

/-- An empty slot, an empty segment and an empty group in front of a member of an integer. -/
theorem run_without_receiver_member :
    let pipeline : Pipeline Unit (Value Unit) :=
      [.replace "nothing" .nothing, .commit, .reset, .replace "group ()" .nothing, .commit,
        .replace "int 1" (.int 1), .member "x", .commit]
    ∃ program, compile ",;(),1.x" = .ok pipeline ∧
      Derives (.program program) ",;(),1.x".toList [] ∧ program.usesReceiver = false ∧
      ∃ outcome : Except RunError (List (Value Unit)),
        (∀ values, outcome = .ok values → ∀ value ∈ values, value.isPlain = true) ∧
        (∀ {σ : Type} (host : Host σ Unit) (depth : Nat) (receiver : Value Unit) (world : World σ),
          host.run depth pipeline receiver world = some (outcome, world)) ∧
        ∀ {σ : Type} (host : Host σ Unit) (depth : Nat) (receiver : Value Unit) (world : World σ),
          host.logged.run depth pipeline receiver ⟨([], world.host), world.allocated⟩ =
            some (outcome, ⟨([], world.host), world.allocated⟩) := by
  intro pipeline
  let program : Program := .andThen (.last .empty) (.andThen (.andThen .empty (.last (.term
    (.group .blank)))) (.last (.last (.term (.member (.int 1) "x")))))
  have read : Reading.program Draft.empty ",;(),1.x".toList = .ok program := rfl
  have compiled : compile ",;(),1.x" = .ok pipeline := compile_of_read read
  have derives := derives_of_read read
  exact ⟨program, compiled, derives, rfl, run_without_receiver compiled derives rfl⟩

end Focal
