import Focal.Proofs.Eval.Log
import Focal.Proofs.Eval.Values
import Focal.Proofs.Pipeline.Compile

/-!
# Runs of compiled sources

A pipeline that a source compiles to has the outcome that the tree of the source evaluates to
(`run_compiled`).  This holds for every way in which callables and containers answer.  For a host it
also holds when the closures that are called on the way are themselves evaluated by their trees:
`Host.treeAnswers` does that for every closure whose pipeline a `Decompiler` finds a tree for, and
`Decompiler.complete` finds one for every pipeline that is the steps of a program.

The outcomes agree with all their effects.  So for a host that keeps a log of what it is asked for,
`Host.logged`, the logs agree too, and that host differs from the one without a log in nothing else:
the same calls and lookups are made in the same order.
-/

namespace Focal

open Syntax

variable {σ ι : Type}

/-! ## Closures by their trees -/

/-- A choice of trees for pipelines. -/
structure Decompiler (ι : Type) where
  /-- The tree of a pipeline, if one is known. -/
  tree? : Pipeline ι (Value ι) → Option Program
  /-- A pipeline is the steps of its tree. -/
  steps_eq : ∀ {pipeline : Pipeline ι (Value ι)} {program : Program},
    tree? pipeline = some program → program.steps = pipeline

open Classical in
/-- The decompiler that knows a tree of every pipeline that has one. -/
noncomputable def Decompiler.complete : Decompiler ι where
  tree? pipeline :=
    if known : ∃ program : Program, program.steps = pipeline then some known.choose else none
  steps_eq := by
    intro pipeline program found
    split at found
    · rename_i known
      obtain rfl := Option.some.inj found
      exact known.choose_spec
    · cases found

theorem Decompiler.complete_steps (program : Program) :
    ∃ tree, (complete : Decompiler ι).tree? program.steps = some tree := by
  have known : ∃ other : Program, (other.steps : Pipeline ι (Value ι)) = program.steps :=
    ⟨program, rfl⟩
  exact ⟨known.choose, dif_pos known⟩

/-- How callables and containers answer when closures with a known tree are evaluated by it. -/
def Host.treeAnswers (host : Host σ ι) (trees : Decompiler ι) : Nat → Answers σ ι
  | 0 => host.answers 0
  | depth + 1 =>
      { invoke := fun callable arguments =>
          match callable with
          | .native _ handle =>
              (host.treeAnswers trees depth).attempt (host.call handle arguments)
          | .closure body receiver =>
              match trees.tree? body with
              | some program =>
                  program.values (host.treeAnswers trees depth) (arguments.headD receiver)
              | none =>
                  Pipeline.results host (host.treeAnswers trees depth) body
                    (arguments.headD receiver)
        find := fun container name =>
          match container with
          | .bindings entries => pure (entries.get? name)
          | .native _ handle => (host.treeAnswers trees depth).react (host.find handle name) }

/-- The steps of a program compute its values, in a fresh run. -/
theorem results_steps (host : Host σ ι) (answers : Answers σ ι) (program : Program)
    (receiver : Value ι) :
    Pipeline.results host answers program.steps receiver = program.values answers receiver :=
  program.resultsFrom_fresh receiver

theorem Host.treeAnswers_eq (host : Host σ ι) (trees : Decompiler ι) (depth : Nat) :
    host.treeAnswers trees depth = host.answers depth := by
  induction depth with
  | zero => rfl
  | succ depth ih =>
      rw [treeAnswers, answers, ih]
      congr 1
      funext callable arguments
      cases callable with
      | native name handle => rfl
      | closure body receiver =>
          simp only
          split
          · rename_i program found
            rw [← trees.steps_eq found, results_steps]
          · rfl

/-! ## Compiled sources -/

/-- A run of a compiled source has the outcome that the tree of the source evaluates to, and the
host is asked for the same things in the same order. -/
theorem run_compiled {source : String} {pipeline : Pipeline ι (Value ι)}
    (compiled : compile source = .ok pipeline) :
    ∃ program, Derives (.program program) source.toList [] ∧
      (∀ (host : Host σ ι) (answers : Answers σ ι) (receiver : Value ι),
        Pipeline.results host answers pipeline receiver = program.values answers receiver) ∧
      (∀ (trees : Decompiler ι) (host : Host σ ι) (depth : Nat) (receiver : Value ι),
        host.run depth pipeline receiver =
          program.values (host.treeAnswers trees depth) receiver) ∧
      ∀ (trees : Decompiler ι) (host : Host σ ι) (depth : Nat) (receiver : Value ι),
        host.logged.run depth pipeline receiver =
            program.values (host.logged.treeAnswers trees depth) receiver ∧
          Erases (host.logged.run depth pipeline receiver) (host.run depth pipeline receiver) := by
  obtain ⟨program, derives, rfl⟩ := compile_eq_ok_iff.mp compiled
  refine ⟨program, derives, ?_, ?_, ?_⟩
  · intro host answers receiver
    exact results_steps host answers program receiver
  · intro trees host depth receiver
    rw [Host.run, host.treeAnswers_eq, results_steps]
  · intro trees host depth receiver
    constructor
    · rw [Host.run, host.logged.treeAnswers_eq, results_steps]
    · exact host.run_logged depth program.steps receiver

/-- A block that is called and looked up on, a segment whose values are dropped, and members of maps
of the program and of the host: what the run finds is what the tree evaluates to. -/
theorem run_compiled_looked_up :
    let source := "\x7ba\x7d().b, f(f.c, 1); f.c, ;"
    let pipeline : Pipeline Unit (Value Unit) :=
      [.block [.lookup "a", .commit], .call [], .member "b", .commit,
        .lookup "f", .call [.lookup "f", .member "c", .commit, .replace "int 1" (.int 1), .commit],
        .reset, .lookup "f", .member "c", .commit, .reset, .replace "nothing" .nothing, .commit]
    let receiver : Value Unit := .container 0 (.bindings (Bindings.ofList "root"
      [("a", .container 1 (.bindings (Bindings.ofList "a" [("b", .str "x")]))),
        ("f", .object 2 (.native "f" ()) (.native "f" ()))]))
    let echo : Host Unit Unit :=
      { call := fun _ arguments => .done (.ok arguments)
        find := fun _ name => .done (some (.str name))
        mapStep := fun _ _ value => .done (.ok value)
        spliceStep := fun _ _ value => .done (.ok [value])
        modifyStep := fun _ context => .done (.ok (), context) }
    let start : World (Logged Unit Unit) := { host := ([], ()), allocated := 3 }
    let events : List (HostEvent Unit) :=
      [.lookup () "c", .call () [.str "c", .int 1], .lookup () "c"]
    compile source = .ok pipeline ∧
      echo.logged.run 1 pipeline receiver start =
        some (.ok [.str "x", .str "c", .nothing], { host := (events, ()), allocated := 4 }) ∧
      ∃ program, Derives (.program program) source.toList [] ∧
        (∀ trees : Decompiler Unit,
          program.values (echo.logged.treeAnswers trees 1) receiver start =
            some (.ok [.str "x", .str "c", .nothing], { host := (events, ()), allocated := 4 })) ∧
        (∀ (host : Host Unit Unit) (answers : Answers Unit Unit) (receiver : Value Unit),
          Pipeline.results host answers pipeline receiver = program.values answers receiver) ∧
        (∀ (trees : Decompiler Unit) (host : Host Unit Unit) (depth : Nat) (receiver : Value Unit),
          host.run depth pipeline receiver =
            program.values (host.treeAnswers trees depth) receiver) ∧
        ∀ (trees : Decompiler Unit) (host : Host Unit Unit) (depth : Nat) (receiver : Value Unit),
          host.logged.run depth pipeline receiver =
              program.values (host.logged.treeAnswers trees depth) receiver ∧
            Erases (host.logged.run depth pipeline receiver) (host.run depth pipeline receiver) := by
  intro source pipeline receiver echo start events
  have compiled : compile source = .ok pipeline :=
    @compile_of_read Unit "\x7ba\x7d().b, f(f.c, 1); f.c, ;"
      (.andThen
        (.last (.term (.member
          (.call (.block (.program (.last (.last (.term (.name "a")))))) .blank) "b")))
        (.andThen
          (.andThen
            (.term (.call (.name "f") (.program (.andThen
              (.last (.term (.member (.name "f") "c"))) (.last (.last (.term (.int 1))))))))
            (.last (.term (.member (.name "f") "c"))))
          (.last (.andThen .empty (.last .empty))))) rfl
  have ran : echo.logged.run 1 pipeline receiver start =
      some (.ok [.str "x", .str "c", .nothing], { host := (events, ()), allocated := 4 }) := rfl
  obtain ⟨program, derives, results, runs, logs⟩ := run_compiled compiled
  refine ⟨compiled, ran, program, derives, fun trees => ?_, results, runs, logs⟩
  rw [← ran, (logs trees echo 1 receiver).1]

end Focal
