import Focal.CommandLine.Request
import Focal.Proofs.Pipeline.Compile

/-!
# Scripts in the place of a command

A script can be named in the place of a command, and is then run.  The arguments behind it are read
without it, so one more input among them is accepted, though nothing uses it.  Hence a script alone
is run as the command `run` would do it with the first of these inputs left out
(`run_script_shorthand`): without such an input there is no difference, and with one the command
`run` refuses it, unless it has refused an option in front of it.
-/

namespace Focal

variable {options : Options} {argument word : String} {arguments : List String}
  {input : Option String}

/-- Whether an argument is an option: it starts with two hyphens. -/
def isOption (argument : String) : Bool :=
  (after? "--" argument).isSome

namespace Options

/-- Options with another input. -/
def withInput (options : Options) (input : Option String) : Options :=
  { options with input }

/-- Arguments without the first one that is an input.  Those behind two hyphens alone are none. -/
def dropInput : List String → List String
  | [] => []
  | argument :: rest =>
      if argument = "--" then argument :: rest
      else if isOption argument then argument :: dropInput rest
      else rest

/-! ## One argument -/

/-- What an argument does to the options does not depend on their input, unless it is itself an
input and there is none yet. -/
theorem take_withInput
    (unaffected : isOption argument = true ∨ options.input.isSome = true ∧ input.isSome = true) :
    (options.withInput input).take argument = (options.take argument).map (·.withInput input) := by
  simp only [take]
  cases after? "--color=" argument with
  | some mode =>
      dsimp only
      cases Diagnostic.ColorChoice.parse? mode <;> rfl
  | none =>
      cases after? "--receiver=" argument with
      | some name =>
          dsimp only
          split <;> rfl
      | none =>
          dsimp only
          rcases unaffected with isOpt | ⟨present, presentToo⟩
          · rw [isOption] at isOpt
            rw [if_pos isOpt, if_pos isOpt]
            rfl
          · obtain ⟨own, ownEq⟩ := Option.isSome_iff_exists.mp present
            obtain ⟨other, rfl⟩ := Option.isSome_iff_exists.mp presentToo
            simp only [withInput, ownEq]
            split <;> rfl

/-- An option keeps the input. -/
theorem input_of_take {next : Options} (isOpt : isOption argument = true)
    (taken : options.take argument = .ok next) : next.input = options.input := by
  have kept : options.take argument = (options.take argument).map (·.withInput options.input) :=
    take_withInput (.inl isOpt)
  rw [taken] at kept
  have same : next = next.withInput options.input := Except.ok.inj kept
  rw [same]
  rfl

theorem after?_eq_none {start longer text : String} (longer_start : start.toList <+: longer.toList)
    (unstarted : (after? start text).isSome = false) : after? longer text = Option.none := by
  rw [after?] at unstarted ⊢
  split at unstarted
  · cases unstarted
  · rename_i notPrefix
    refine if_neg fun isPrefix => notPrefix ?_
    rw [List.isPrefixOf_iff_prefix] at isPrefix ⊢
    exact longer_start.trans isPrefix

/-- What does not start with two hyphens is taken as the input, if there is none yet. -/
theorem take_of_not_isOption (notOption : isOption argument = false) :
    options.take argument =
      if options.input.isNone then .ok (options.withInput (some argument))
      else .error (.unexpectedArgument argument) := by
  rw [isOption] at notOption
  have noColor : after? "--color=" argument = Option.none :=
    after?_eq_none (by decide) notOption
  have noReceiver : after? "--receiver=" argument = Option.none :=
    after?_eq_none (by decide) notOption
  simp only [take, noColor, noReceiver, notOption]
  rfl

/-! ## All arguments -/

theorem takeAll_withInput
    (unaffected : ∀ argument ∈ arguments.takeWhile (· ≠ "--"),
      isOption argument = true ∨ options.input.isSome = true ∧ input.isSome = true) :
    (options.withInput input).takeAll arguments =
      (options.takeAll arguments).map (·.withInput input) := by
  induction arguments generalizing options with
  | nil => rfl
  | cons argument rest ih =>
      rw [takeAll, takeAll]
      by_cases isEnd : argument = "--"
      · rw [if_pos isEnd, if_pos isEnd]
        rfl
      · rw [List.takeWhile_cons_of_pos (by simpa using isEnd)] at unaffected
        obtain ⟨first, others⟩ := List.forall_mem_cons.mp unaffected
        rw [if_neg isEnd, if_neg isEnd, take_withInput first]
        cases taken : options.take argument with
        | error error => rfl
        | ok next =>
            have kept : next.input = options.input := by
              rcases Bool.eq_false_or_eq_true (isOption argument) with isOpt | notOption
              · exact input_of_take isOpt taken
              · obtain isOpt | ⟨present, -⟩ := first
                · cases notOption.symm.trans isOpt
                · rw [take_of_not_isOption notOption,
                    Option.isNone_eq_false_iff.mpr present] at taken
                  cases taken
            exact ih fun other mem => kept ▸ others other mem

/-- With another input in front, the first input among the arguments has to be left out. -/
theorem takeAll_dropInput (noInput : options.input = Option.none) :
    (options.withInput (some word)).takeAll (dropInput arguments) =
      (options.takeAll arguments).map (·.withInput (some word)) := by
  induction arguments generalizing options with
  | nil => rfl
  | cons argument rest ih =>
      rw [dropInput, takeAll]
      by_cases isEnd : argument = "--"
      · rw [if_pos isEnd, if_pos isEnd, takeAll, if_pos isEnd]
        rfl
      rw [if_neg isEnd, if_neg isEnd]
      rcases Bool.eq_false_or_eq_true (isOption argument) with isOpt | notOption
      · rw [if_pos isOpt, takeAll, if_neg isEnd, take_withInput (.inl isOpt)]
        cases taken : options.take argument with
        | error error => rfl
        | ok next => exact ih ((input_of_take isOpt taken).trans noInput)
      · rw [if_neg (by simpa using notOption), take_of_not_isOption notOption, noInput]
        exact @takeAll_withInput (options.withInput (some argument)) rest (some word)
          fun _ _ => .inr ⟨rfl, rfl⟩

/-- An input stays. -/
theorem input_of_takeAll {next : Options} (present : options.input.isSome = true)
    (taken : options.takeAll arguments = .ok next) : next.input = options.input := by
  have kept : options.takeAll arguments =
      (options.takeAll arguments).map (·.withInput options.input) :=
    takeAll_withInput fun _ _ => .inr ⟨present, present⟩
  rw [taken] at kept
  have same : next = next.withInput options.input := Except.ok.inj kept
  rw [same]
  rfl

/-- The first input is the one that is left out. -/
theorem dropInput_append {front behind : List String} {surplus : String}
    (onlyOptions : ∀ argument ∈ front, argument ≠ "--" ∧ isOption argument = true)
    (notOption : isOption surplus = false) :
    dropInput (front ++ surplus :: behind) = front ++ behind := by
  induction front with
  | nil =>
      have notEnd : surplus ≠ "--" := by
        rintro rfl
        cases notOption
      rw [List.nil_append, dropInput, if_neg notEnd, if_neg (by simpa using notOption)]
      rfl
  | cons argument rest ih =>
      obtain ⟨⟨unended, isOpt⟩, others⟩ := List.forall_mem_cons.mp onlyOptions
      rw [List.cons_append, dropInput, if_neg unended, if_pos isOpt, ih others]
      rfl

/-- The first input behind options that are not refused is refused if there is one already. -/
theorem takeAll_surplus {front behind : List String} {surplus : String} {next : Options}
    (onlyOptions : ∀ argument ∈ front, argument ≠ "--" ∧ isOption argument = true)
    (taken : options.takeAll front = .ok next) (present : options.input.isSome = true)
    (notOption : isOption surplus = false) :
    options.takeAll (front ++ surplus :: behind) = .error (.unexpectedArgument surplus) := by
  have notEnd : surplus ≠ "--" := by
    rintro rfl
    cases notOption
  induction front generalizing options with
  | nil =>
      rw [List.nil_append, takeAll, if_neg notEnd, take_of_not_isOption notOption,
        Option.isNone_eq_false_iff.mpr present]
      rfl
  | cons argument rest ih =>
      obtain ⟨⟨unended, isOpt⟩, others⟩ := List.forall_mem_cons.mp onlyOptions
      rw [takeAll, if_neg unended] at taken
      rw [List.cons_append, takeAll, if_neg unended]
      cases first : options.take argument with
      | error error =>
          rw [first] at taken
          cases taken
      | ok middle =>
          rw [first] at taken
          exact ih others taken (by rw [input_of_take isOpt first, present])

end Options

/-! ## Requests -/

namespace CommandLine

/-- Run a file with options, or say why there are none. -/
def runWith (setting : Setting) (path : String) : Except OptionError Options → Request
  | .ok options => runFile setting options path
  | .error error => .finish (some (optionFailure error))

/-- The input is not needed for it. -/
theorem runWith_withInput (setting : Setting) (path : String)
    (read : Except OptionError Options) (input : Option String) :
    runWith setting path (read.map (·.withInput input)) = runWith setting path read := by
  cases read <;> rfl

/-- A script that is no option is none of the words that stand for something else. -/
theorem request_script (setting : Setting) (arguments : List String)
    (script : Path.isScript word = true) (notOption : isOption word = false) :
    request setting (word :: arguments) = runWith setting word (Options.read arguments) := by
  have other {meant : String} (notScript : Path.isScript meant = false ∨ isOption meant = true) :
      word ≠ meant := by
    rintro rfl
    rcases notScript with notScript | isOpt
    · cases notScript.symm.trans script
    · cases notOption.symm.trans isOpt
  have noCommand : SourceCommand.parse? word = none := by
    refine List.find?_eq_none.mpr fun command _ named => ?_
    have named : command.name = word := of_decide_eq_true named
    cases command <;> exact other (.inl rfl) named.symm
  have noHelp : ¬ (word = "help" ∨ word = "--help" ∨ word = "-h") := by
    simp only [not_or]
    exact ⟨other (.inl rfl), other (.inr rfl), other (.inl rfl)⟩
  have noVersion : ¬ (word = "version" ∨ word = "--version" ∨ word = "-v") := by
    simp only [not_or]
    exact ⟨other (.inl rfl), other (.inr rfl), other (.inl rfl)⟩
  have noExplanation : ¬ (word = "explain" ∨ word = "--explain") := by
    simp only [not_or]
    exact ⟨other (.inl rfl), other (.inr rfl)⟩
  simp only [request, noCommand, if_neg noHelp, if_neg noVersion, if_neg noExplanation,
    if_pos script]
  cases Options.read arguments <;> rfl

theorem request_run (setting : Setting) (arguments : List String)
    (notOption : isOption word = false) :
    request setting ("run" :: word :: arguments) =
      runWith setting word ((Options.none.withInput (some word)).takeAll arguments) := by
  have notEnd : word ≠ "--" := by
    rintro rfl
    cases notOption
  have read : Options.read (word :: arguments) =
      (Options.none.withInput (some word)).takeAll arguments := by
    rw [Options.read, Options.takeAll, if_neg notEnd, Options.take_of_not_isOption notOption]
    rfl
  change sourceRequest setting .run (word :: arguments) = _
  rw [sourceRequest, read]
  cases taken : (Options.none.withInput (some word)).takeAll arguments with
  | error error => rfl
  | ok options =>
      have kept : options.input = some word := Options.input_of_takeAll rfl taken
      simp only [kept]
      rfl

/-- A script in the place of a command is run as the command `run` does it with the same arguments,
but for the first input among these, which is left out.  The command `run` itself refuses that
input, unless an option in front of it is refused. -/
theorem run_script_shorthand (setting : Setting) (files : String → Except ReadError String)
    (script : Path.isScript word = true) (notOption : isOption word = false) :
    (∀ arguments, (request setting (word :: arguments)).answer files =
      (request setting ("run" :: word :: Options.dropInput arguments)).answer files) ∧
    (∀ arguments, (∀ argument ∈ arguments.takeWhile (· ≠ "--"), isOption argument = true) →
      (request setting (word :: arguments)).answer files =
        (request setting ("run" :: word :: arguments)).answer files) ∧
    ∀ front surplus behind, (∀ argument ∈ front, argument ≠ "--" ∧ isOption argument = true) →
      (∃ options, Options.read front = .ok options) → isOption surplus = false →
        Options.dropInput (front ++ surplus :: behind) = front ++ behind ∧
        (request setting ("run" :: word :: (front ++ surplus :: behind))).answer files =
          some (optionFailure (.unexpectedArgument surplus)) := by
  refine ⟨fun arguments => ?_, fun arguments onlyOptions => ?_, ?_⟩
  · rw [request_script setting arguments script notOption, request_run setting _ notOption,
      Options.takeAll_dropInput rfl, runWith_withInput]
    rfl
  · rw [request_script setting arguments script notOption, request_run setting _ notOption,
      Options.takeAll_withInput fun argument mem => .inl (onlyOptions argument mem),
      runWith_withInput]
    rfl
  · intro front surplus behind onlyOptions readable surplusInput
    obtain ⟨options, read⟩ := readable
    refine ⟨Options.dropInput_append onlyOptions surplusInput, ?_⟩
    have frontRead : (Options.none.withInput (some word)).takeAll front =
        .ok (options.withInput (some word)) := by
      rw [Options.takeAll_withInput fun argument mem =>
        .inl (onlyOptions argument (List.takeWhile_subset _ mem)).2]
      exact congrArg _ read
    rw [request_run setting _ notOption,
      Options.takeAll_surplus onlyOptions frontRead rfl surplusInput]
    rfl

/-- A script with an option and another input behind it. -/
theorem run_script_shorthand_option :
    let setting : Setting := { depth := 100, isTerminal := false }
    let files : String → Except ReadError String := fun _ => .ok "1"
    Path.isScript "a.Manta" = true ∧ isOption "a.Manta" = false ∧
      (request setting ["a.Manta", "--color=always", "b", "--", "c"]).answer files =
        (request setting ["run", "a.Manta", "--color=always", "--", "c"]).answer files ∧
      (request setting ["a.Manta", "--color=always", "--", "c"]).answer files =
        (request setting ["run", "a.Manta", "--color=always", "--", "c"]).answer files ∧
      (request setting ["run", "a.Manta", "--color=always", "b", "--", "c"]).answer files =
        some (optionFailure (.unexpectedArgument "b")) := by
  intro setting files
  have script : Path.isScript "a.Manta" = true := rfl
  have notOption : isOption "a.Manta" = false := rfl
  obtain ⟨shorthand, agrees, refused⟩ := run_script_shorthand setting files script notOption
  refine ⟨script, notOption, shorthand ["--color=always", "b", "--", "c"],
    agrees ["--color=always", "--", "c"] (by decide), ?_⟩
  exact (refused ["--color=always"] "b" ["--", "c"] (by decide) ⟨_, rfl⟩ rfl).2

/-- An empty script is run although another input stands behind it, which the command `run`
refuses. -/
theorem shorthand_accepts_second_input :
    let setting : Setting := { depth := 100, isTerminal := false }
    let files : String → Except ReadError String := fun _ => .ok ""
    Path.isScript "a.manta" = true ∧ isOption "a.manta" = false ∧
      (request setting ["a.manta", "b"]).answer files = some (.succeed "") ∧
      (request setting ["run", "a.manta", "b"]).answer files =
        some (.fail "error: unexpected argument 'b'\n") ∧
      (request setting ["a.manta", "b"]).answer files ≠
        (request setting ["run", "a.manta", "b"]).answer files := by
  intro setting files
  have accepted : (request setting ["a.manta", "b"]).answer files = some (.succeed "") := by
    have compiled : compile "" = .ok ([] : Pipeline Prelude.Function PreludeValue) :=
      @compile_of_read Prelude.Function "" (.last (.last .empty)) rfl
    rw [request_script setting ["b"] rfl rfl]
    change evaluateAs setting (Options.none.withInput (some "b")) "a.manta" "" = _
    simp only [evaluateAs, Script.evaluate, Script.pipeline, compiled]
    rfl
  have refused : (request setting ["run", "a.manta", "b"]).answer files =
      some (.fail "error: unexpected argument 'b'\n") := by
    rfl
  refine ⟨rfl, rfl, accepted, refused, ?_⟩
  rw [accepted, refused]
  decide

end CommandLine

end Focal
