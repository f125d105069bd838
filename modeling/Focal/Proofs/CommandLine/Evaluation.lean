import Focal.CommandLine.Request
import Focal.Proofs.Diagnostic.Snippets
import Focal.Proofs.Eval.Failures
import Focal.Proofs.Eval.Log
import Focal.Proofs.Pipeline.Errors
import Focal.Proofs.Pipeline.Safety

/-!
# Evaluation on the command line

A source is evaluated in three stages: it is compiled, a receiver is selected, and the pipeline
runs.  Either all of them succeed (`Evaluates`), or one of them stops the evaluation with a
diagnostic (`Aborts`), and there is no other way to an output (`evaluateAs_eq_some_iff`).

The functions of the prelude are followed through a log of what they are called with.  The text
written is at any time what the calls in the log print (`Prelude.run_faithful`), so what a failing
source leaves on standard output is what was printed in front of the failing operation, without any
of the results.
-/

namespace Focal

open Diagnostic

variable {σ ι : Type}

/-! ## What is printed -/

/-- The text that the prelude writes when it is asked for something. -/
def HostEvent.printed : HostEvent Prelude.Function → String
  | .call .print values => String.intercalate " " (values.map Value.bare) ++ "\n"
  | _ => ""

/-- The text that the prelude writes when it is asked for one thing after another. -/
def printed (events : List (HostEvent Prelude.Function)) : String :=
  String.join (events.map HostEvent.printed)

theorem printed_concat (events : List (HostEvent Prelude.Function))
    (event : HostEvent Prelude.Function) :
    printed (events ++ [event]) = printed events ++ event.printed := by
  simp [printed, String.join_append]

/-- What is kept of the state of a host, as a relation between a computation and itself. -/
def RunRelation.invariant (Holds : σ → Prop) : RunRelation σ σ where
  Relates computation _ := ∀ world result after, Holds world.host →
    computation world = some (result, after) → Holds after.host
  pure _ world _ _ holds ended := by
    obtain ⟨-, rfl⟩ := Prod.mk.inj (Option.some.inj ended)
    exact holds
  bind first next world _ _ holds ended := by
    obtain ⟨value, between, firstEnded, nextEnded⟩ := Run.bind_eq_some_iff.mp ended
    exact next value between _ _ (first world _ _ holds firstEnded) nextEnded
  allocate world _ _ holds ended := by
    obtain ⟨-, rfl⟩ := Prod.mk.inj (Option.some.inj ended)
    exact holds

namespace Prelude

/-- The text written is what the calls in the log print. -/
def Faithful (state : Logged String Function) : Prop :=
  state.2 = printed state.1

/-- The answers of a host that keep to its log. -/
abbrev AnswersFaithful (answers : Answers (Logged String Function) Function) : Prop :=
  (RunRelation.invariant Faithful).RelatesAnswers answers answers

theorem hosts_faithful (answers : Answers (Logged String Function) Function) :
    (RunRelation.invariant Faithful).RelatesHosts host.logged answers host.logged answers where
  call function values := by
    intro world result after faithful ended
    have writes : after.host = (world.host.1 ++ [.call function values],
        world.host.2 ++ (HostEvent.call function values).printed) := by
      cases function <;> cases ended <;> rfl
    rw [writes, Faithful, printed_concat, ← faithful]
  find function name := by
    intro world result after faithful ended
    cases ended
    rw [Faithful, printed_concat, ← faithful]
    exact (String.append_empty).symm
  mapStep _ _ _ := (RunRelation.invariant Faithful).pure _
  spliceStep _ _ _ := (RunRelation.invariant Faithful).pure _
  modifyStep _ _ := (RunRelation.invariant Faithful).pure _

theorem answers_faithful (depth : Nat) : AnswersFaithful (host.logged.answers depth) := by
  induction depth with
  | zero =>
      constructor
      · intro callable arguments _ _ _ _ ended
        cases ended
      · intro container name
        cases container with
        | bindings entries => exact (RunRelation.invariant Faithful).pure _
        | native _ function =>
            intro _ _ _ _ ended
            cases ended
  | succ depth ih =>
      constructor
      · intro callable arguments
        cases callable with
        | native _ function => exact (hosts_faithful _).call function arguments
        | closure body receiver => exact RunRelation.results_related ih (hosts_faithful _) body _
      · intro container name
        cases container with
        | bindings entries => exact (RunRelation.invariant Faithful).pure _
        | native _ function => exact (hosts_faithful _).find function name

/-- A run from a state in which the text is what the log says leads to another such state. -/
theorem run_faithful {depth : Nat} {pipeline : Pipeline Function PreludeValue}
    {receiver : PreludeValue} {world after : World (Logged String Function)}
    {result : Except RunError (List PreludeValue)} (faithful : Faithful world.host)
    (ended : host.logged.run depth pipeline receiver world = some (result, after)) :
    Faithful after.host :=
  RunRelation.results_related (answers_faithful depth) (hosts_faithful _) pipeline receiver world
    result after faithful ended

/-! ## The receiver -/

/-- The entries of the prelude.  It makes them one after another, before anything else. -/
def entries (arguments : List String) : Bindings PreludeValue :=
  let environment : Bindings PreludeValue :=
    Bindings.ofList "env" [("name", .str "manta"), ("version", .str version)]
  Bindings.ofList "prelude" [
    ("print", .callable 0 (.native "print" .print)),
    ("concat", .callable 1 (.native "concat" .concat)),
    ("identity", .callable 2 (.native "identity" .identity)),
    ("count", .callable 3 (.native "count" .count)),
    ("args", .callable 4 (.native "args" (.arguments arguments))),
    ("env", .container 5 (.bindings environment))]

/-- The prelude as a value. -/
def root (arguments : List String) : PreludeValue :=
  .container 6 (.bindings (entries arguments))

theorem build_eq (arguments : List String) :
    build id arguments { host := "", allocated := 0 } =
      some (root arguments, { host := "", allocated := 7 }) :=
  rfl

/-- The world behind the making of the prelude, with an empty log. -/
def ready : World (Logged String Function) :=
  { host := ([], ""), allocated := 7 }

theorem ready_faithful : Faithful ready.host :=
  rfl

end Prelude

/-- The value that options select to run against: the prelude, or the entry that is named. -/
def Options.selected? (options : Options) : Option PreludeValue :=
  options.receiver.elim (some (Prelude.root options.arguments))
    (Prelude.entries options.arguments).get?

/-- Only an entry that is named can be missing. -/
theorem Options.named_of_selected?_eq_none {options : Options}
    (missing : options.selected? = .none) : ∃ name, options.receiver = some name := by
  rw [selected?] at missing
  cases named : options.receiver with
  | none =>
      rw [named] at missing
      cases missing
  | some name => exact ⟨name, rfl⟩

/-- A run fails if and only if an operation in it does, with the error of the operation and the
notes of the active pipelines. -/
theorem Host.run_eq_error_iff {host : Host σ ι} {depth : Nat} {pipeline : Pipeline ι (Value ι)}
    {receiver : Value ι} {world after : World σ} {error : RunError} :
    host.run depth pipeline receiver world = some (.error error, after) ↔
      ∃ active origin, Fails host depth (.run pipeline (Context.fresh receiver)) world active origin
        after ∧ error = origin.addNotes (active.map Frame.note) := by
  refine Pipeline.endsIn_iff.symm.trans ⟨fun ends => ?_, ?_⟩
  · exact Explained.run (Explained.steps (host.callsExplained depth) pipeline) _ _ _ _ ends
  · rintro ⟨active, origin, fails, rfl⟩
    exact fails.endsIn

namespace Script

variable {depth : Nat} {source : String} {options : Options}
  {pipeline : Pipeline Prelude.Function PreludeValue} {receiver : PreludeValue}

/-! ## The stages -/

/-- Every stage of the evaluation of a source succeeds, with results and after events. -/
inductive Evaluates (depth : Nat) (source : String) (options : Options) :
    List PreludeValue → List (HostEvent Prelude.Function) → Prop
  | intro {pipeline : Pipeline Prelude.Function PreludeValue} {receiver : PreludeValue}
      {values : List PreludeValue} {after : World (Logged String Prelude.Function)}
      (compiles : compile source = .ok pipeline)
      (selects : options.selected? = some receiver)
      (runs : Prelude.host.logged.run depth pipeline receiver Prelude.ready =
        some (.ok values, after)) :
      Evaluates depth source options values after.host.1

/-- A stage of the evaluation of a source fails, with a diagnostic and after events. -/
inductive Aborts (depth : Nat) (source : String) (options : Options) :
    Diagnostic → List (HostEvent Prelude.Function) → Prop
  /-- The source does not compile. -/
  | source {error : Syntax.SyntaxError}
      (invalid : (compile source : Except Syntax.Failure (Pipeline Prelude.Function PreludeValue)) =
        .error (.invalid error)) :
      Aborts depth source options (ofSyntaxError error) []
  /-- The prelude has no entry of the name. -/
  | receiver {pipeline : Pipeline Prelude.Function PreludeValue} {name : String}
      (compiles : compile source = .ok pipeline) (named : options.receiver = some name)
      (missing : options.selected? = none) :
      Aborts depth source options
        ((ofRunError (.unbound name)).addNote ("selected by `--receiver=" ++ name ++ "`")) []
  /-- An operation of the run fails, and leaves the world as it then is. -/
  | run {pipeline : Pipeline Prelude.Function PreludeValue} {receiver : PreludeValue}
      {active : List (Frame (Logged String Prelude.Function) Prelude.Function)}
      {origin : RunError} {after : World (Logged String Prelude.Function)}
      (compiles : compile source = .ok pipeline)
      (selects : options.selected? = some receiver)
      (fails : Fails Prelude.host.logged depth (.run pipeline (Context.fresh receiver))
        Prelude.ready active origin after) :
      Aborts depth source options (ofRunError (origin.addNotes (active.map Frame.note)))
        after.host.1

theorem evaluate_invalid {error : Syntax.SyntaxError}
    (invalid : (compile source : Except Syntax.Failure (Pipeline Prelude.Function PreludeValue)) =
      .error (.invalid error)) :
    evaluate depth source options { host := "", allocated := 0 } =
      some (.error (ofSyntaxError error), { host := "", allocated := 0 }) := by
  rw [evaluate, Script.pipeline, invalid]
  rfl

theorem lookup_root (depth : Nat) (arguments : List String) (name : String)
    (world : World String) :
    Prelude.host.lookupValue depth (Prelude.root arguments) name world =
      some (((Prelude.entries arguments).get? name).elim (.error (.unbound name)) .ok, world) := by
  have answered : (Prelude.host.answers depth).find (.bindings (Prelude.entries arguments)) name =
      pure ((Prelude.entries arguments).get? name) := by
    cases depth <;> rfl
  rw [Host.lookupValue, Answers.lookup, Prelude.root]
  simp only [Value.toContainer, answered]
  cases (Prelude.entries arguments).get? name <;> rfl

theorem select_of_selected (selects : options.selected? = some receiver) (world : World String) :
    select depth (Prelude.root options.arguments) options.receiver world =
      some (.ok receiver, world) := by
  rw [Options.selected?] at selects
  cases named : options.receiver with
  | none =>
      rw [named] at selects
      obtain rfl := Option.some.inj selects
      rfl
  | some name =>
      rw [named, Option.elim_some] at selects
      refine Run.bind_eq_some_iff.mpr ⟨.ok receiver, world, ?_, rfl⟩
      exact (lookup_root depth options.arguments name world).trans (by rw [selects]; rfl)

theorem select_of_missing {name : String} (named : options.receiver = some name)
    (missing : options.selected? = none) (world : World String) :
    select depth (Prelude.root options.arguments) options.receiver world =
      some (.error ((ofRunError (.unbound name)).addNote
        ("selected by `--receiver=" ++ name ++ "`")), world) := by
  rw [Options.selected?, named, Option.elim_some] at missing
  rw [named]
  refine Run.bind_eq_some_iff.mpr ⟨.error (.unbound name), world, ?_, rfl⟩
  exact (lookup_root depth options.arguments name world).trans (by rw [missing]; rfl)

theorem evaluate_missing {name : String} (compiles : compile source = .ok pipeline)
    (named : options.receiver = some name) (missing : options.selected? = none) :
    evaluate depth source options { host := "", allocated := 0 } =
      some (.error ((ofRunError (.unbound name)).addNote
        ("selected by `--receiver=" ++ name ++ "`")), Prelude.ready.withoutLog) := by
  rw [evaluate, Script.pipeline, compiles]
  refine Run.bind_eq_some_iff.mpr ⟨_, _, Prelude.build_eq options.arguments, ?_⟩
  exact Run.bind_eq_some_iff.mpr ⟨_, _, select_of_missing named missing _, rfl⟩

theorem evaluate_selected (compiles : compile source = .ok pipeline)
    (selects : options.selected? = some receiver) :
    evaluate depth source options { host := "", allocated := 0 } =
      (Prelude.host.logged.run depth pipeline receiver Prelude.ready).map
        (Prod.map (Except.mapError ofRunError) World.withoutLog) := by
  rw [evaluate, Script.pipeline, compiles]
  refine (Run.bind_of_eq_some (Prelude.build_eq options.arguments)).trans ?_
  refine (Run.bind_of_eq_some (select_of_selected selects _)).trans ?_
  change Option.bind (Prelude.host.run depth pipeline receiver Prelude.ready.withoutLog) _ = _
  rw [← Prelude.host.run_logged depth pipeline receiver Prelude.ready]
  rcases Prelude.host.logged.run depth pipeline receiver Prelude.ready with _ | ⟨_ | _, _⟩ <;> rfl

/-- The evaluation of a source has an outcome if and only if all stages succeed or one of them
fails, and the text written is then what was printed. -/
theorem evaluate_eq_some_iff {result : Except Diagnostic (List PreludeValue)}
    {text : String} :
    (∃ allocated, evaluate depth source options { host := "", allocated := 0 } =
        some (result, { host := text, allocated })) ↔
      (∃ values events, Evaluates depth source options values events ∧ result = .ok values ∧
        text = printed events) ∨
      ∃ diagnostic events, Aborts depth source options diagnostic events ∧
        result = .error diagnostic ∧ text = printed events := by
  constructor
  · rintro ⟨allocated, ended⟩
    rcases compile_no_fault source with ⟨pipeline, compiles⟩ | ⟨error, invalid⟩
    · cases selects : options.selected? with
      | none =>
          obtain ⟨name, named⟩ := Options.named_of_selected?_eq_none selects
          obtain ⟨rfl, inWorld⟩ := Prod.mk.inj
            (Option.some.inj ((evaluate_missing compiles named selects).symm.trans ended))
          exact .inr
            ⟨_, [], .receiver compiles named selects, rfl, (congrArg World.host inWorld).symm⟩
      | some receiver =>
          obtain ⟨⟨outcome, after⟩, ran, finished⟩ :=
            Option.map_eq_some_iff.mp ((evaluate_selected compiles selects).symm.trans ended)
          obtain ⟨rfl, inWorld⟩ := Prod.mk.inj finished
          have written : text = printed after.host.1 :=
            (congrArg World.host inWorld).symm.trans
              (Prelude.run_faithful Prelude.ready_faithful ran)
          cases outcome with
          | ok values => exact .inl ⟨values, _, .intro compiles selects ran, rfl, written⟩
          | error error =>
              obtain ⟨active, origin, fails, rfl⟩ := Host.run_eq_error_iff.mp ran
              exact .inr ⟨_, _, .run compiles selects fails, rfl, written⟩
    · obtain ⟨rfl, inWorld⟩ := Prod.mk.inj
        (Option.some.inj ((evaluate_invalid invalid).symm.trans ended))
      exact .inr ⟨_, [], .source invalid, rfl, (congrArg World.host inWorld).symm⟩
  · have finishes {pipeline : Pipeline Prelude.Function PreludeValue} {receiver : PreludeValue}
        {outcome : Except RunError (List PreludeValue)}
        {after : World (Logged String Prelude.Function)} (compiles : compile source = .ok pipeline)
        (selects : options.selected? = some receiver)
        (ran : Prelude.host.logged.run depth pipeline receiver Prelude.ready =
          some (outcome, after)) :
        evaluate depth source options { host := "", allocated := 0 } =
          some (outcome.mapError ofRunError,
            { host := printed after.host.1, allocated := after.allocated }) := by
      rw [evaluate_selected compiles selects, ran,
        ← Prelude.run_faithful Prelude.ready_faithful ran]
      rfl
    rintro (⟨_, _, ⟨compiles, selects, runs⟩, rfl, rfl⟩ | ⟨_, _, aborts, rfl, rfl⟩)
    · exact ⟨_, finishes compiles selects runs⟩
    · cases aborts with
      | source invalid => exact ⟨0, evaluate_invalid invalid⟩
      | receiver compiles named missing => exact ⟨7, evaluate_missing compiles named missing⟩
      | run compiles selects fails =>
          exact ⟨_, finishes compiles selects (Host.run_eq_error_iff.mpr ⟨_, _, fails, rfl⟩)⟩

end Script

namespace CommandLine

variable {setting : Setting} {files : String → Except ReadError String} {words : List String}
  {options : Options} {place source : String}

/-! ## The output -/

theorem write_summary_one (colors : Bool) :
    write colors (summary 1) =
      if colors then "\x1b[1;31merror\x1b[0m: aborting due to previous error\n"
      else "error: aborting due to previous error\n" := by
  cases colors <;> rfl

theorem report_eq (color : ColorChoice) (diagnostic : Diagnostic) :
    report setting color source place diagnostic =
      write (color.colors setting.isTerminal)
          (layout { source := some source, path := some place } diagnostic) ++
        if color.colors setting.isTerminal then
          "\x1b[1;31merror\x1b[0m: aborting due to previous error\n"
        else "error: aborting due to previous error\n" := by
  rw [report, write_append, write_summary_one]

/-- What the evaluation of a source leaves: what was printed with the results behind it, or what was
printed and the diagnostic. -/
theorem evaluateAs_eq_some_iff {output : Output} :
    evaluateAs setting options place source = some output ↔
      (∃ values events, Script.Evaluates setting.depth source options values events ∧
        output = .succeed (printed events ++ printLines values)) ∨
      ∃ diagnostic events, Script.Aborts setting.depth source options diagnostic events ∧
        output = { Output.fail (report setting options.color source place diagnostic) with
          stdout := printed events } := by
  rw [evaluateAs]
  refine Option.bind_eq_some_iff.trans ⟨?_, ?_⟩
  · rintro ⟨⟨result, ⟨text, allocated⟩⟩, ended, finished⟩
    rcases Script.evaluate_eq_some_iff.mp ⟨allocated, ended⟩ with
      ⟨values, events, evaluates, rfl, rfl⟩ | ⟨diagnostic, events, aborts, rfl, rfl⟩
    · exact .inl ⟨values, events, evaluates, (Option.some.inj finished).symm⟩
    · exact .inr ⟨diagnostic, events, aborts, (Option.some.inj finished).symm⟩
  · rintro (⟨values, events, evaluates, rfl⟩ | ⟨diagnostic, events, aborts, rfl⟩)
    · obtain ⟨allocated, ended⟩ :=
        Script.evaluate_eq_some_iff.mpr (.inl ⟨values, events, evaluates, rfl, rfl⟩)
      exact ⟨_, ended, rfl⟩
    · obtain ⟨allocated, ended⟩ :=
        Script.evaluate_eq_some_iff.mpr (.inr ⟨diagnostic, events, aborts, rfl, rfl⟩)
      exact ⟨_, ended, rfl⟩

/-- Arguments ask for the evaluation of a source, given on the command line or in a file, with
options and under the name of a place. -/
inductive AsksToEvaluate (files : String → Except ReadError String) :
    List String → Options → String → String → Prop
  | eval {arguments : List String} {options : Options} {source : String}
      (read : Options.read arguments = .ok options) (input : options.input = some source) :
      AsksToEvaluate files ("eval" :: arguments) options "<eval>" source
  | run {arguments : List String} {options : Options} {path source : String}
      (read : Options.read arguments = .ok options) (input : options.input = some path)
      (holds : files path = .ok source) :
      AsksToEvaluate files ("run" :: arguments) options path source

theorem AsksToEvaluate.answer_eq (asks : AsksToEvaluate files words options place source) :
    (request setting words).answer files = evaluateAs setting options place source := by
  cases asks with
  | @eval arguments _ _ read input =>
      change (sourceRequest setting .eval arguments).answer files = _
      simp only [sourceRequest, read, input]
      rfl
  | @run arguments _ _ _ read input holds =>
      change (sourceRequest setting .run arguments).answer files = _
      simp only [sourceRequest, read, input]
      change Request.answer files (runFile setting options place) = _
      rw [runFile, onFile, Request.answer, holds]

/-- An evaluation on the command line that comes to an end prints all results or none.  If it is
compiled, its receiver is selected and it runs without an error, then it succeeds, with an empty
standard error, and with the results that are not nothing behind what was printed on the way.
Otherwise it fails, standard output holds what was printed in front of the failing operation alone,
and standard error one diagnostic and the closing line. -/
theorem evaluation_all_or_nothing (setting : Setting)
    (asks : AsksToEvaluate files words options place source) :
    (∀ output, (request setting words).answer files = some output ↔
      (∃ values events, Script.Evaluates setting.depth source options values events ∧
        output =
          { stdout := printed events ++ String.join
              ((values.filter fun value => !value.isNothing).map fun value => value.bare ++ "\n")
            stderr := ""
            success := true }) ∨
      ∃ diagnostic events, Script.Aborts setting.depth source options diagnostic events ∧
        output =
          { stdout := printed events
            stderr :=
              write (options.color.colors setting.isTerminal)
                  (layout { source := some source, path := some place } diagnostic) ++
                if options.color.colors setting.isTerminal then
                  "\x1b[1;31merror\x1b[0m: aborting due to previous error\n"
                else "error: aborting due to previous error\n"
            success := false }) ∧
    ∀ output, (request setting words).answer files = some output →
      (output.success = true ∧ output.stderr = "" ↔
        ∃ values events, Script.Evaluates setting.depth source options values events) := by
  rw [asks.answer_eq]
  refine ⟨fun output => ?_, fun output ended => ?_⟩
  · simp only [← report_eq]
    exact evaluateAs_eq_some_iff
  · constructor
    · rintro ⟨succeeded, -⟩
      rcases evaluateAs_eq_some_iff.mp ended with
        ⟨values, events, evaluates, -⟩ | ⟨_, _, _, rfl⟩
      · exact ⟨values, events, evaluates⟩
      · cases succeeded
    · rintro ⟨values, events, evaluates⟩
      have succeeds : evaluateAs setting options place source = some _ :=
        evaluateAs_eq_some_iff.mpr (.inl ⟨values, events, evaluates, rfl⟩)
      obtain rfl := Option.some.inj (ended.symm.trans succeeds)
      exact ⟨rfl, rfl⟩

/-- Three sources.  One prints a text and gives results, some of them nothing.  One prints, gives a
result and then looks up a name that is not bound: the text is printed, and the result is not.  One
does not compile: nothing is printed, and the diagnostic and the closing line are coloured when
colours are asked for. -/
theorem evaluation_all_or_nothing_reports :
    let setting : Setting := { depth := 1, isTerminal := false }
    let files : String → Except ReadError String := fun _ => .error .notFound
    let complete := ["eval", "print(\"a\"), 1, (), \"b\""]
    let unbound := ["eval", "print(\"a\"), 1, b"]
    let unclosed := ["eval", "1, (", "--color=always"]
    AsksToEvaluate files complete { Options.none with input := some "print(\"a\"), 1, (), \"b\"" }
        "<eval>" "print(\"a\"), 1, (), \"b\"" ∧
      (request setting complete).answer files =
        some { stdout := "a\n1\nb\n", stderr := "", success := true } ∧
      AsksToEvaluate files unbound { Options.none with input := some "print(\"a\"), 1, b" } "<eval>"
        "print(\"a\"), 1, b" ∧
      (request setting unbound).answer files =
        some
          { stdout := "a\n"
            stderr := "error[E6002]: undefined name: b\n  = note: while running `lookup b`\n" ++
              "  = help: names without a `.` are looked up on the receiver\n\n" ++
              "error: aborting due to previous error\n"
            success := false } ∧
      AsksToEvaluate files unclosed { Options.none with input := some "1, (", color := .always }
        "<eval>" "1, (" ∧
      (request setting unclosed).answer files =
        some
          { stdout := ""
            stderr := "\x1b[1;31merror\x1b[0m\x1b[1m[E0005]\x1b[0m: unbalanced `(`\n" ++
              " --> <eval>:1\n\x1b[1;34m  |\x1b[0m\n\x1b[1;34m1 |\x1b[0m 1, (\n" ++
              "\x1b[1;34m  |\x1b[0m \x1b[1;31m^^^^ `(` opened here is never closed\x1b[0m\n" ++
              "\x1b[1;34m  |\x1b[0m\n  = \x1b[1;32mhelp\x1b[0m: add the missing `)`\n\n" ++
              "\x1b[1;31merror\x1b[0m: aborting due to previous error\n"
            success := false } := by
  intro setting files complete unbound unclosed
  have asksComplete : AsksToEvaluate files complete
      { Options.none with input := some "print(\"a\"), 1, (), \"b\"" } "<eval>"
        "print(\"a\"), 1, (), \"b\"" :=
    .eval rfl rfl
  have asksUnbound : AsksToEvaluate files unbound
      { Options.none with input := some "print(\"a\"), 1, b" } "<eval>" "print(\"a\"), 1, b" :=
    .eval rfl rfl
  have asksUnclosed : AsksToEvaluate files unclosed
      { Options.none with input := some "1, (", color := .always } "<eval>" "1, (" :=
    .eval rfl rfl
  let printing : Pipeline Prelude.Function PreludeValue :=
    [.lookup "print", .call [.replace "str \"a\"" (.str "a"), .commit], .commit,
      .replace "int 1" (.int 1), .commit]
  let printed : World (Logged String Prelude.Function) :=
    { host := ([.call .print [.str "a"]], "a\n"), allocated := 7 }
  have evaluates : Script.Evaluates 1 "print(\"a\"), 1, (), \"b\""
      { Options.none with input := some "print(\"a\"), 1, (), \"b\"" }
      [.nothing, .int 1, .nothing, .str "b"] printed.host.1 := by
    have compiles : compile "print(\"a\"), 1, (), \"b\"" = .ok (printing ++
        [.replace "group ()" .nothing, .commit, .replace "str \"b\"" (.str "b"), .commit]) :=
      @compile_of_read Prelude.Function "print(\"a\"), 1, (), \"b\""
        (.andThen
          (.last (.term (.call (.name "print") (.program (.last (.last (.term (.str "a"))))))))
          (.andThen (.last (.term (.int 1))) (.andThen (.last (.term (.group .blank)))
            (.last (.last (.term (.str "b"))))))) rfl
    exact .intro compiles rfl rfl
  have aborts : Script.Aborts 1 "print(\"a\"), 1, b"
      { Options.none with input := some "print(\"a\"), 1, b" }
      (ofRunError ((RunError.unbound "b").addNote "while running `lookup b`")) printed.host.1 := by
    have compiles : compile "print(\"a\"), 1, b" = .ok (printing ++ [.lookup "b", .commit]) :=
      @compile_of_read Prelude.Function "print(\"a\"), 1, b"
        (.andThen
          (.last (.term (.call (.name "print") (.program (.last (.last (.term (.str "a"))))))))
          (.andThen (.last (.term (.int 1))) (.last (.last (.term (.name "b")))))) rfl
    have ran : Prelude.host.logged.run 1 (printing ++ [.lookup "b", .commit]) (Prelude.root [])
        Prelude.ready =
          some (.error ((RunError.unbound "b").addNote "while running `lookup b`"), printed) := rfl
    obtain ⟨active, cause, fails, errorEq⟩ := Host.run_eq_error_iff.mp ran
    rw [errorEq]
    exact .run compiles rfl fails
  have invalid : (compile "1, (" : Except Syntax.Failure (Pipeline Prelude.Function PreludeValue)) =
      .error (.invalid { line := 1, kind := .unclosedDelimiter '(' }) :=
    (@compile_of_offence Prelude.Function "1, (" ⟨.unclosedDelimiter '(', ['(']⟩ "1, ".toList
      rfl rfl).2
  refine ⟨asksComplete, ?_, asksUnbound, ?_, asksUnclosed, ?_⟩
  · exact ((evaluation_all_or_nothing setting asksComplete).1 _).mpr
      (.inl ⟨_, _, evaluates, by decide +kernel⟩)
  · exact ((evaluation_all_or_nothing setting asksUnbound).1 _).mpr
      (.inr ⟨_, _, aborts, by decide +kernel⟩)
  · exact ((evaluation_all_or_nothing setting asksUnclosed).1 _).mpr
      (.inr ⟨_, _, .source invalid, by decide +kernel⟩)

end CommandLine

end Focal
