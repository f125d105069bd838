import Focal.Proofs.Eval.Depth
import Focal.Proofs.Eval.Reference
import Focal.Proofs.Syntax.Bodies

/-!
# Blocks

A block is its program kept for later (`block_defers`).  Its run yields one closure of the program,
on the receiver that the block is run on, and this is the closure that the program itself is made
into on that receiver.  Calling the closure evaluates the program with the arguments.  A block that
is called where it stands runs the arguments first, and then its program on their first value.

Outcomes are compared at some depth that is enough for them, because the body of a closure runs one
level deeper than its call.  They include the state of the host; for a host that keeps a log of what
it is asked for they include the log.
-/

namespace Focal

open Syntax

variable {σ ι : Type}

/-! ## Sources of one term -/

namespace Syntax

/-- A program that is not trivia is a body with this program. -/
theorem Derives.body_of_not_trivia {program : Program} {inner : List Char}
    (derives : Derives (.program program) inner []) (notTrivia : ¬ Trivia inner) :
    Derives (.body (.program program)) inner [] := by
  refine .body ?_ derives
  by_contra white
  rw [Bool.not_eq_false] at white
  exact notTrivia (Reading.trivia_of_program white derives.read)

theorem Derives.program_of_term {term : Term} {text : List Char}
    (derives : Derives (.term term) text []) :
    Derives (.program (.last (.last (.term term)))) text [] := by
  have segment : Derives (.segment (.term term)) ([] ++ text) [] :=
    .segment (by simp [Trivia]) (by simpa using derives) (by simp [Trivia])
  exact .lastSlot (.lastSegment segment)

end Syntax

/-- A program that is not trivia is a block between braces. -/
theorem compile_block {source : String} {pipeline : Pipeline ι (Value ι)}
    (compiled : compile source = .ok pipeline) (notTrivia : ¬ Trivia source.toList) :
    compile ("\x7b" ++ source ++ "\x7d") = .ok [.block pipeline, .commit] := by
  obtain ⟨program, derives, rfl⟩ := compile_eq_ok_iff.mp compiled
  have block : Derives (.term (.block (.program program))) _ [] :=
    .block (derives.body_of_not_trivia notTrivia)
  exact compile_eq_ok_iff.mpr
    ⟨.last (.last (.term (.block (.program program)))), by simpa using block.program_of_term, rfl⟩

/-- A block can be called with another program in parentheses behind it. -/
theorem compile_block_call {source argument : String} {pipeline arguments : Pipeline ι (Value ι)}
    (compiled : compile source = .ok pipeline) (notTrivia : ¬ Trivia source.toList)
    (argumentCompiled : compile argument = .ok arguments)
    (argumentNotTrivia : ¬ Trivia argument.toList) :
    compile ("\x7b" ++ source ++ "\x7d(" ++ argument ++ ")") =
      .ok [.block pipeline, .call arguments, .commit] := by
  obtain ⟨program, derives, rfl⟩ := compile_eq_ok_iff.mp compiled
  obtain ⟨other, otherDerives, rfl⟩ := compile_eq_ok_iff.mp argumentCompiled
  have block : Derives (.term (.block (.program program))) _
      ([] ++ '(' :: argument.toList ++ ')' :: []) :=
    .block (derives.body_of_not_trivia notTrivia)
  have call := Derives.call block (by simp [Trivia])
    (otherDerives.body_of_not_trivia argumentNotTrivia)
  exact compile_eq_ok_iff.mpr
    ⟨.last (.last (.term (.call (.block (.program program)) (.program other)))),
      by simpa using call.program_of_term, rfl⟩

/-! ## Closures -/

/-- Calling a closure evaluates its pipeline, one level deeper. -/
theorem Host.callValue_closure (host : Host σ ι) (depth : Nat) (identity : Identity)
    (pipeline : Pipeline ι (Value ι)) (receiver : Value ι) (arguments : List (Value ι)) :
    host.callValue (depth + 1) (.callable identity (.closure pipeline receiver)) arguments =
      host.evaluate depth pipeline receiver arguments :=
  rfl

theorem Host.callValue_closure_sameOutcomes (host : Host σ ι) (identity : Identity)
    (pipeline : Pipeline ι (Value ι)) (receiver : Value ι) (arguments : List (Value ι)) :
    SameOutcomes
      (host.callValue · (.callable identity (.closure pipeline receiver)) arguments)
      (host.evaluate · pipeline receiver arguments) := by
  apply SameOutcomes.of_below
  · intro depth
    cases depth with
    | zero => exact Below.tooDeep _
    | succ depth =>
        rw [host.callValue_closure]
        exact host.run_mono (Nat.le_succ depth) pipeline _
  · intro depth
    rw [host.callValue_closure]
    exact Below.refl _

/-! ## Runs of blocks -/

theorem Host.run_block (host : Host σ ι) (depth : Nat) (pipeline : Pipeline ι (Value ι))
    (receiver : Value ι) (world : World σ) :
    host.run depth [.block pipeline, .commit] receiver world =
      some (.ok [.callable world.allocated (.closure pipeline receiver)],
        { world with allocated := world.allocated + 1 }) :=
  rfl

/-- A run of a called block makes a closure, runs the arguments and invokes the closure on them. -/
theorem Host.run_block_call (host : Host σ ι) (depth : Nat) (program arguments : Program)
    (receiver : Value ι) :
    host.run depth [.block program.steps, .call arguments.steps, .commit] receiver = (do
      let _ ← (Run.allocate : Run σ Identity)
      Eval.noted (Step.note (.call arguments.steps : Step ι (Value ι))) do
        (host.answers depth).invoke (.closure program.steps receiver)
          (← host.run depth arguments.steps receiver)) := by
  have values := Term.values_call_block (host.answers depth) receiver (.program program) arguments
  rw [← results_steps host, ← Host.run] at values
  exact values ▸ results_steps host (host.answers depth)
    (.last (.last (.term (.call (.block (.program program)) (.program arguments))))) receiver

/-- What a called block does: run the arguments, and then the program on the first of their values,
or on the receiver if there is none.  Errors of both get the note of the call. -/
def Host.runCalledBlock (host : Host σ ι) (depth : Nat) (pipeline arguments : Pipeline ι (Value ι))
    (receiver : Value ι) : Eval σ (List (Value ι)) := do
  let _ ← (Run.allocate : Run σ Identity)
  Eval.noted (Step.note (.call arguments : Step ι (Value ι))) do
    let values ← host.run depth arguments receiver
    host.run depth pipeline (values.headD receiver)

theorem Host.run_block_call_sameOutcomes (host : Host σ ι) (program arguments : Program)
    (receiver : Value ι) :
    SameOutcomes
      (host.run · [.block program.steps, .call arguments.steps, .commit] receiver)
      (host.runCalledBlock · program.steps arguments.steps receiver) := by
  simp only [host.run_block_call]
  apply SameOutcomes.of_below
  · intro depth
    refine Below.bindExcept (Below.refl _) fun _ => Below.noted ?_ _
    refine Below.bindExcept (Below.refl _) fun values => ?_
    cases depth with
    | zero => exact Below.tooDeep _
    | succ depth => exact host.run_mono (Nat.le_succ depth) program.steps _
  · intro depth
    refine Below.bindExcept (Below.refl _) fun _ => Below.noted ?_ _
    exact Below.bindExcept (host.run_mono (Nat.le_succ depth) arguments.steps receiver)
      fun values => Below.refl _

/-! ## Deferred programs -/

/-- The runs of a pipeline make closures of another one. -/
structure Defers (block pipeline : Pipeline ι (Value ι)) : Prop where
  /-- A run yields one closure, on its receiver. -/
  run_eq : ∀ {σ : Type} (host : Host σ ι) (depth : Nat) (receiver : Value ι) (world : World σ),
    host.run depth block receiver world =
      some (.ok [.callable world.allocated (.closure pipeline receiver)],
        { world with allocated := world.allocated + 1 })
  /-- The pipeline is made into the same closure. -/
  close_eq : ∀ {σ : Type} (receiver : Value ι) (world : World σ),
    Host.close pipeline receiver world =
      some (.callable world.allocated (.closure pipeline receiver),
        { world with allocated := world.allocated + 1 })
  /-- To call such a closure is to evaluate the pipeline. -/
  call : ∀ {σ : Type} (host : Host σ ι) (identity : Identity) (receiver : Value ι)
      (arguments : List (Value ι)),
    SameOutcomes
      (host.callValue · (.callable identity (.closure pipeline receiver)) arguments)
      (host.evaluate · pipeline receiver arguments)

/-- A source that is not trivia compiles between braces too.  The runs of the block make closures of
what the source compiles to, and if the block is called with another source, then its program runs
behind that one. -/
theorem block_defers {source : String} {pipeline : Pipeline ι (Value ι)}
    (compiled : compile source = .ok pipeline) (notTrivia : ¬ Trivia source.toList) :
    (∃ block, compile ("\x7b" ++ source ++ "\x7d") = .ok block ∧ Defers block pipeline) ∧
    ∀ {argument : String} {arguments : Pipeline ι (Value ι)}, compile argument = .ok arguments →
      ¬ Trivia argument.toList →
        ∃ call, compile ("\x7b" ++ source ++ "\x7d(" ++ argument ++ ")") = .ok call ∧
          ∀ {σ : Type} (host : Host σ ι) (receiver : Value ι),
            SameOutcomes (host.run · call receiver)
              (host.runCalledBlock · pipeline arguments receiver) := by
  constructor
  · refine ⟨_, compile_block compiled notTrivia, ?_⟩
    exact
      { run_eq := fun host depth receiver world => host.run_block depth pipeline receiver world
        close_eq := fun receiver world => rfl
        call := fun host identity receiver arguments =>
          host.callValue_closure_sameOutcomes identity pipeline receiver arguments }
  · intro argument arguments argumentCompiled argumentNotTrivia
    refine ⟨_, compile_block_call compiled notTrivia argumentCompiled argumentNotTrivia, ?_⟩
    intro σ host receiver
    obtain ⟨program, _, rfl⟩ := compile_eq_ok_iff.mp compiled
    obtain ⟨other, _, rfl⟩ := compile_eq_ok_iff.mp argumentCompiled
    exact host.run_block_call_sameOutcomes program other receiver

/-- The block of `this(1)`, and a call of it with an integer, which cannot be called. -/
theorem block_defers_call :
    let pipeline : Pipeline Unit (Value Unit) :=
      [.call [.replace "int 1" (.int 1), .commit], .commit]
    let arguments : Pipeline Unit (Value Unit) := [.replace "int 2" (.int 2), .commit]
    compile "this(1)" = .ok pipeline ∧ ¬ Trivia "this(1)".toList ∧
      compile "2" = .ok arguments ∧ ¬ Trivia "2".toList ∧
      (∃ block, compile "\x7bthis(1)\x7d" = .ok block ∧ Defers block pipeline) ∧
      (∃ call, compile "\x7bthis(1)\x7d(2)" = .ok call ∧
        ∀ {σ : Type} (host : Host σ Unit) (receiver : Value Unit),
          SameOutcomes (host.run · call receiver)
            (host.runCalledBlock · pipeline arguments receiver)) ∧
      ∀ (host : Host Unit Unit) (depth : Nat) (world : World Unit),
        host.run (depth + 1)
            [.block [.call [.replace "int 1" (.int 1), .commit], .commit],
              .call [.replace "int 2" (.int 2), .commit], .commit] .nothing world =
          some (.error
            { cause := .lacks .callable "int"
              notes := ["while running `call (2 steps)`", "while running `call (2 steps)`"] },
            { world with allocated := world.allocated + 1 }) := by
  intro pipeline arguments
  have compiled : compile "this(1)" = .ok pipeline :=
    @compile_of_read Unit "this(1)" (.last (.last (.term (.call .receiver (.program
      (.last (.last (.term (.int 1))))))))) rfl
  have argumentCompiled : compile "2" = .ok arguments :=
    @compile_of_read Unit "2" (.last (.last (.term (.int 2)))) rfl
  have notTrivia : ¬ Trivia "this(1)".toList :=
    fun trivia => absurd (trivia 't' (by simp)) (by decide)
  have argumentNotTrivia : ¬ Trivia "2".toList :=
    fun trivia => absurd (trivia '2' (by simp)) (by decide)
  obtain ⟨block, call⟩ := block_defers compiled notTrivia
  exact ⟨compiled, notTrivia, argumentCompiled, argumentNotTrivia, block,
    call argumentCompiled argumentNotTrivia, fun _ _ _ => rfl⟩

end Focal
