import Focal.Proofs.Eval.Blocks
import Focal.Proofs.Eval.Failures

/-!
# Groups

A program in parentheses runs like the program itself (`group_transparent`): it asks the host for
the same things, yields the same results, and fails with the same errors.  Only the notes show the
parentheses, with one note for each pair that an error gets out of.
-/

namespace Focal

open Syntax

variable {σ ι : Type}

/-- A program that is not trivia is a group between parentheses. -/
theorem compile_group {source : String} {pipeline : Pipeline ι (Value ι)}
    (compiled : compile source = .ok pipeline) (notTrivia : ¬ Trivia source.toList) :
    compile ("(" ++ source ++ ")") = .ok [.group pipeline, .commit] := by
  obtain ⟨program, derives, rfl⟩ := compile_eq_ok_iff.mp compiled
  have group : Derives (.term (.group (.program program))) _ [] :=
    .group (derives.body_of_not_trivia notTrivia)
  exact compile_eq_ok_iff.mpr
    ⟨.last (.last (.term (.group (.program program)))), by simpa using group.program_of_term, rfl⟩

/-- The note of a group of some steps. -/
def groupNote (steps : Nat) : String :=
  "while running `" ++ Step.counted "group" steps ++ "`"

theorem note_group (body : Pipeline ι (Value ι)) :
    Step.note (.group body : Step ι (Value ι)) = groupNote body.length :=
  rfl

/-- A run of the group of a program is a run of the program, with a note for errors. -/
theorem Host.run_group (host : Host σ ι) (depth : Nat) (program : Program) (receiver : Value ι) :
    host.run depth [.group program.steps, .commit] receiver =
      Eval.noted (groupNote (program.steps : Pipeline ι (Value ι)).length)
        (host.run depth program.steps receiver) := by
  have ran := results_steps host (host.answers depth)
    (.last (.last (.term (.group (.program program))))) receiver
  simp only [Program.values, Slot.values, Term.values, note_group, ← results_steps host] at ran
  exact ran

/-! ## Runs that differ in their notes -/

/-- A computation whose errors get notes behind those they have. -/
def Eval.annotated {α : Type} (notes : List String) (computation : Eval σ α) : Eval σ α :=
  fun world => (computation world).map (Prod.map (Except.mapError (·.addNotes notes)) id)

theorem Eval.annotated_nil {α : Type} (computation : Eval σ α) :
    Eval.annotated [] computation = computation := by
  funext world
  rw [annotated]
  cases computation world with
  | none => rfl
  | some outcome =>
      rcases outcome with ⟨error | value, after⟩
      · simp [Except.mapError, RunError.addNotes_nil]
      · rfl

theorem Eval.noted_annotated {α : Type} (note : String) (notes : List String)
    (computation : Eval σ α) :
    Eval.noted note (Eval.annotated notes computation) =
      Eval.annotated (notes ++ [note]) computation := by
  funext world
  rw [noted_apply, annotated, annotated, Option.map_map]
  cases computation world with
  | none => rfl
  | some outcome =>
      rcases outcome with ⟨error | value, after⟩
      · simp [Except.mapError, RunError.addNotes_concat]
      · rfl

/-- The runs of a pipeline are those of another one, but for notes on the errors. -/
structure RunsLike (other pipeline : Pipeline ι (Value ι)) (notes : List String) : Prop where
  /-- The results, the errors without the notes, and the worlds are the same. -/
  run_eq : ∀ {σ : Type} (host : Host σ ι) (depth : Nat) (receiver : Value ι),
    host.run depth other receiver = Eval.annotated notes (host.run depth pipeline receiver)
  /-- The host is asked for the same things in the same order. -/
  log_eq : ∀ {σ : Type} (host : Host σ ι) (depth : Nat) (receiver : Value ι)
      (world : World (Logged σ ι)),
    (host.logged.run depth other receiver world).map (·.2.host.1) =
      (host.logged.run depth pipeline receiver world).map (·.2.host.1)

theorem RunsLike.of_run_eq {other pipeline : Pipeline ι (Value ι)} {notes : List String}
    (run_eq : ∀ {σ : Type} (host : Host σ ι) (depth : Nat) (receiver : Value ι),
      host.run depth other receiver = Eval.annotated notes (host.run depth pipeline receiver)) :
    RunsLike other pipeline notes := by
  refine ⟨run_eq, fun host depth receiver world => ?_⟩
  rw [run_eq, Eval.annotated, Option.map_map]
  rfl

theorem RunsLike.refl (pipeline : Pipeline ι (Value ι)) : RunsLike pipeline pipeline [] :=
  .of_run_eq fun _ _ _ => (Eval.annotated_nil _).symm

/-- Parentheses around a source add one note behind the others. -/
theorem RunsLike.group {source : String} {inner pipeline : Pipeline ι (Value ι)}
    {notes : List String} (compiled : compile source = .ok inner)
    (runsLike : RunsLike inner pipeline notes) :
    RunsLike [.group inner, .commit] pipeline (notes ++ [groupNote inner.length]) := by
  obtain ⟨program, _, rfl⟩ := compile_eq_ok_iff.mp compiled
  refine .of_run_eq fun host depth receiver => ?_
  rw [host.run_group, runsLike.run_eq, Eval.noted_annotated]

/-! ## Parentheses around parentheses -/

/-- A text in pairs of parentheses. -/
def parenthesized (source : String) : Nat → String
  | 0 => source
  | count + 1 => "(" ++ parenthesized source count ++ ")"

theorem not_trivia_parenthesized (source : String) (count : Nat) :
    ¬ Trivia (parenthesized source (count + 1)).toList := by
  intro trivia
  exact absurd (trivia '(' (by simp [parenthesized])) (by decide)

/-- A source that is not trivia compiles in parentheses too, and runs there like on its own: the
results and the requests to the host are the same, and so are the errors, but for a note about the
group.  This is so in any number of parentheses, of which all but the innermost ones enclose a group
and a commit. -/
theorem group_transparent {source : String} {pipeline : Pipeline ι (Value ι)}
    (compiled : compile source = .ok pipeline) (notTrivia : ¬ Trivia source.toList) :
    (∃ grouped, compile ("(" ++ source ++ ")") = .ok grouped ∧
      RunsLike grouped pipeline [groupNote pipeline.length]) ∧
    ∀ count, ∃ enclosed, compile (parenthesized source (count + 1)) = .ok enclosed ∧
      RunsLike enclosed pipeline
        (groupNote pipeline.length :: List.replicate count (groupNote 2)) := by
  have grouped : RunsLike [.group pipeline, .commit] pipeline [groupNote pipeline.length] :=
    (RunsLike.refl pipeline).group compiled
  refine ⟨⟨_, compile_group compiled notTrivia, grouped⟩, fun count => ?_⟩
  suffices enclosed : ∃ inner : Pipeline ι (Value ι),
      compile (parenthesized source (count + 1)) = .ok [.group inner, .commit] ∧
        RunsLike [.group inner, .commit] pipeline
          (groupNote pipeline.length :: List.replicate count (groupNote 2)) by
    obtain ⟨inner, innerCompiled, runsLike⟩ := enclosed
    exact ⟨_, innerCompiled, runsLike⟩
  induction count with
  | zero => exact ⟨pipeline, compile_group compiled notTrivia, grouped⟩
  | succ count ih =>
      obtain ⟨inner, innerCompiled, runsLike⟩ := ih
      refine ⟨_, compile_group innerCompiled (not_trivia_parenthesized source count), ?_⟩
      rw [List.replicate_succ', ← List.cons_append]
      exact runsLike.group innerCompiled

/-- Two slots in parentheses. -/
theorem group_transparent_slots :
    compile "1,a" = .ok ([.replace "int 1" (.int 1), .commit, .lookup "a", .commit] :
        Pipeline Unit (Value Unit)) ∧
      ¬ Trivia "1,a".toList ∧
      (∃ grouped, compile "(1,a)" = .ok grouped ∧
        RunsLike grouped ([.replace "int 1" (.int 1), .commit, .lookup "a", .commit] :
          Pipeline Unit (Value Unit)) ["while running `group (4 steps)`"]) ∧
      ∃ enclosed, compile "((1,a))" = .ok enclosed ∧
        RunsLike enclosed ([.replace "int 1" (.int 1), .commit, .lookup "a", .commit] :
          Pipeline Unit (Value Unit))
          ["while running `group (4 steps)`", "while running `group (2 steps)`"] := by
  have compiled : compile "1,a" =
      .ok ([.replace "int 1" (.int 1), .commit, .lookup "a", .commit] :
        Pipeline Unit (Value Unit)) :=
    @compile_of_read Unit "1,a"
      (.andThen (.last (.term (.int 1))) (.last (.last (.term (.name "a"))))) rfl
  have notTrivia : ¬ Trivia "1,a".toList :=
    fun trivia => absurd (trivia '1' (by simp)) (by decide)
  obtain ⟨grouped, enclosed⟩ := group_transparent compiled notTrivia
  exact ⟨compiled, notTrivia, grouped, enclosed 1⟩

end Focal
