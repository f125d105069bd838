import Focal.Proofs.CommandLine.Shorthand

/-!
# What the arguments of a command mean

The arguments are taken one after another, and each may replace what an earlier one said.  What
comes of them can be said without that order.  The arguments up to two hyphens alone are accepted if
every one of them that starts with two hyphens is a setting and at most one does not (`Accepted`).
The options then hold this one as the input, the last setting of each kind, and what follows the two
hyphens as it stands (`described`).  Otherwise one of the arguments is the first that is refused
behind accepted ones (`Refused`), and the error and its message are about this argument, whatever
follows it (`read_exact`).
-/

namespace Focal

/-! ## Forms of arguments -/

theorem after?_eq_some_iff {start text rest : String} :
    after? start text = some rest ↔ text = start ++ rest := by
  rw [after?]
  constructor
  · intro found
    split at found
    · rename_i isPrefix
      obtain ⟨more, textEq⟩ := List.isPrefixOf_iff_prefix.mp isPrefix
      obtain rfl := Option.some.inj found
      rw [← String.toList_inj, String.toList_append, String.toList_ofList, ← textEq,
        List.drop_left]
    · cases found
  · rintro rfl
    rw [String.toList_append, if_pos (List.isPrefixOf_iff_prefix.mpr (List.prefix_append _ _)),
      List.drop_left, String.ofList_toList]

/-- The word that names a choice of colours. -/
def Diagnostic.ColorChoice.word : ColorChoice → String
  | .auto => "auto"
  | .always => "always"
  | .never => "never"

theorem Diagnostic.ColorChoice.parse?_eq_some_iff {text : String} {choice : ColorChoice} :
    ColorChoice.parse? text = some choice ↔ text = choice.word := by
  constructor
  · intro parsed
    unfold parse? at parsed
    split at parsed <;> cases parsed <;> rfl
  · rintro rfl
    cases choice <;> rfl

theorem isOption_iff {argument : String} :
    isOption argument = true ↔ ∃ more, argument = "--" ++ more := by
  rw [isOption, Option.isSome_iff_exists]
  exact exists_congr fun _ => after?_eq_some_iff

namespace Options

open Diagnostic (ColorChoice)

variable {argument mode name message : String} {options : Options} {front behind : List String}
  {error : OptionError}

theorem isOption_color : isOption ("--color=" ++ mode) = true :=
  isOption_iff.mpr ⟨"color=" ++ mode, by rw [← String.append_assoc]; rfl⟩

theorem isOption_receiver : isOption ("--receiver=" ++ name) = true :=
  isOption_iff.mpr ⟨"receiver=" ++ name, by rw [← String.append_assoc]; rfl⟩

theorem color_ne_receiver : "--color=" ++ mode ≠ "--receiver=" ++ name := by
  intro same
  simpa using congrArg String.toList same

/-- What an argument in front of two hyphens alone can be. -/
inductive Form : String → Prop
  | input {argument : String} (notOption : isOption argument = false) : Form argument
  | color (choice : ColorChoice) : Form ("--color=" ++ choice.word)
  | receiver {name : String} (named : name ≠ "") : Form ("--receiver=" ++ name)
  | invalidColor {mode : String} (invalid : ∀ choice : ColorChoice, mode ≠ choice.word) :
      Form ("--color=" ++ mode)
  | emptyReceiver : Form "--receiver="
  | unknown {argument : String} (isOpt : isOption argument = true)
      (noColor : ∀ mode, argument ≠ "--color=" ++ mode)
      (noReceiver : ∀ name, argument ≠ "--receiver=" ++ name) : Form argument

theorem form (argument : String) : Form argument := by
  by_cases isOpt : isOption argument = true
  swap
  · exact .input (by simpa using isOpt)
  by_cases color : ∃ mode, argument = "--color=" ++ mode
  · obtain ⟨mode, rfl⟩ := color
    by_cases valid : ∃ choice : ColorChoice, mode = choice.word
    · obtain ⟨choice, rfl⟩ := valid
      exact .color choice
    · exact .invalidColor (not_exists.mp valid)
  by_cases receiver : ∃ name, argument = "--receiver=" ++ name
  · obtain ⟨name, rfl⟩ := receiver
    by_cases empty : name = ""
    · rw [empty]
      exact .emptyReceiver
    · exact .receiver empty
  · exact .unknown isOpt (not_exists.mp color) (not_exists.mp receiver)

/-! ## Settings -/

/-- The choice of colours that an argument sets. -/
def colorOf? (argument : String) : Option ColorChoice :=
  (after? "--color=" argument).bind ColorChoice.parse?

/-- The receiver that an argument sets. -/
def receiverOf? (argument : String) : Option String :=
  (after? "--receiver=" argument).filter (· ≠ "")

theorem colorOf?_eq_some_iff {choice : ColorChoice} :
    colorOf? argument = some choice ↔ argument = "--color=" ++ choice.word := by
  simp [colorOf?, Option.bind_eq_some_iff, after?_eq_some_iff, ColorChoice.parse?_eq_some_iff]

theorem receiverOf?_eq_some_iff :
    receiverOf? argument = some name ↔ name ≠ "" ∧ argument = "--receiver=" ++ name := by
  simp [receiverOf?, Option.filter_eq_some_iff, after?_eq_some_iff, and_comm]

theorem colorOf?_eq_none (noColor : ∀ mode, argument ≠ "--color=" ++ mode) :
    colorOf? argument = Option.none :=
  Option.eq_none_iff_forall_ne_some.mpr fun _ found => noColor _ (colorOf?_eq_some_iff.mp found)

theorem receiverOf?_eq_none (noReceiver : ∀ name, argument ≠ "--receiver=" ++ name) :
    receiverOf? argument = Option.none :=
  Option.eq_none_iff_forall_ne_some.mpr fun _ found =>
    noReceiver _ (receiverOf?_eq_some_iff.mp found).2

/-- An argument sets the colours or the receiver. -/
def IsSetting (argument : String) : Prop :=
  (∃ choice : ColorChoice, argument = "--color=" ++ choice.word) ∨
    ∃ name, name ≠ "" ∧ argument = "--receiver=" ++ name

/-- The arguments in front of two hyphens alone are settings and at most one input. -/
structure Accepted (front : List String) : Prop where
  settings : ∀ argument ∈ front, isOption argument = true → IsSetting argument
  one_input : (front.filter (!isOption ·)).length ≤ 1

/-- The options that accepted arguments stand for, in whatever order the kinds of them are, with the
arguments behind two hyphens alone. -/
def described (front behind : List String) : Options :=
  { input := (front.filter (!isOption ·)).head?
    color := (front.filterMap colorOf?).getLast?.getD .auto
    receiver := (front.filterMap receiverOf?).getLast?
    arguments := behind }

/-- An argument is refused behind others, for a reason and with a message: it is an option but no
setting, or a second input. -/
inductive Refused (front : List String) : String → OptionError → String → Prop
  | invalidColor {mode : String} (invalid : ∀ choice : ColorChoice, mode ≠ choice.word) :
      Refused front ("--color=" ++ mode) (.invalidColor mode)
        ("invalid color mode '" ++ mode ++ "' (expected auto, always or never)")
  | emptyReceiver :
      Refused front "--receiver=" .emptyReceiver "`--receiver=` needs a prelude name"
  | unknown {argument : String} (isOpt : isOption argument = true)
      (noColor : ∀ mode, argument ≠ "--color=" ++ mode)
      (noReceiver : ∀ name, argument ≠ "--receiver=" ++ name) :
      Refused front argument (.unknownOption argument) ("unknown option '" ++ argument ++ "'")
  | input {argument earlier : String} (notOption : isOption argument = false)
      (member : earlier ∈ front) (earlierInput : isOption earlier = false) :
      Refused front argument (.unexpectedArgument argument)
        ("unexpected argument '" ++ argument ++ "'")

/-- The message of the reason is the message of the refusal. -/
theorem message_of_refused (refused : Refused front argument error message) :
    error.message = message := by
  cases refused <;> rfl

/-! ## One argument -/

theorem take_color (choice : ColorChoice) :
    options.take ("--color=" ++ choice.word) = .ok { options with color := choice } := by
  simp only [take, after?_eq_some_iff.mpr rfl, ColorChoice.parse?_eq_some_iff.mpr rfl]

theorem take_invalidColor (invalid : ∀ choice : ColorChoice, mode ≠ choice.word) :
    options.take ("--color=" ++ mode) = .error (.invalidColor mode) := by
  have noChoice : ColorChoice.parse? mode = Option.none :=
    Option.eq_none_iff_forall_ne_some.mpr fun choice parsed =>
      invalid choice (ColorChoice.parse?_eq_some_iff.mp parsed)
  simp only [take, after?_eq_some_iff.mpr rfl, noChoice]

theorem after?_color_eq_none (noColor : ∀ mode, argument ≠ "--color=" ++ mode) :
    after? "--color=" argument = Option.none :=
  Option.eq_none_iff_forall_ne_some.mpr fun mode found => noColor mode (after?_eq_some_iff.mp found)

theorem take_receiver :
    options.take ("--receiver=" ++ name) =
      if name = "" then .error .emptyReceiver else .ok { options with receiver := some name } := by
  simp only [take, after?_color_eq_none fun _ => color_ne_receiver.symm,
    after?_eq_some_iff.mpr rfl]

theorem take_unknown (isOpt : isOption argument = true)
    (noColor : ∀ mode, argument ≠ "--color=" ++ mode)
    (noReceiver : ∀ name, argument ≠ "--receiver=" ++ name) :
    options.take argument = .error (.unknownOption argument) := by
  have receiver : after? "--receiver=" argument = Option.none :=
    Option.eq_none_iff_forall_ne_some.mpr fun name found =>
      noReceiver name (after?_eq_some_iff.mp found)
  rw [isOption] at isOpt
  simp only [take, after?_color_eq_none noColor, receiver, isOpt, if_true]

/-! ## One more argument -/

theorem input_of_described {earlier : String} (member : earlier ∈ front)
    (earlierInput : isOption earlier = false) : (described front behind).input.isNone = false := by
  have mem : earlier ∈ front.filter (!isOption ·) := by simp [member, earlierInput]
  obtain ⟨first, rest, inputsEq⟩ := List.exists_cons_of_ne_nil (List.ne_nil_of_mem mem)
  rw [described, inputsEq]
  rfl

/-- An argument that is refused behind others is not taken into their options. -/
theorem take_of_refused (refused : Refused front argument error message) :
    (described front behind).take argument = .error error := by
  cases refused with
  | invalidColor invalid => exact take_invalidColor invalid
  | emptyReceiver => exact @take_receiver "" _
  | unknown isOpt noColor noReceiver => exact take_unknown isOpt noColor noReceiver
  | input notOption member earlierInput =>
      rw [take_of_not_isOption notOption, input_of_described member earlierInput]
      rfl

/-- What is accepted with one more argument is accepted without it. -/
theorem Accepted.of_append {rest : List String} (accepted : Accepted (front ++ rest)) :
    Accepted front where
  settings argument member := accepted.settings argument (List.mem_append_left _ member)
  one_input := by
    have few := accepted.one_input
    rw [List.filter_append, List.length_append] at few
    omega

theorem accepted_or_refused (accepted : Accepted front) (argument : String) :
    Accepted (front ++ [argument]) ∨
      ∃ error message, Refused front argument error message := by
  have settled (isOpt : isOption argument = true) (setting : IsSetting argument) :
      Accepted (front ++ [argument]) := by
    refine ⟨fun other member => ?_, ?_⟩
    · rcases List.mem_append.mp member with member | member
      · exact accepted.settings other member
      · obtain rfl := List.mem_singleton.mp member
        exact fun _ => setting
    · have few := accepted.one_input
      simpa [isOpt] using few
  cases form argument with
  | color choice => exact .inl (settled isOption_color (.inl ⟨choice, rfl⟩))
  | receiver named => exact .inl (settled isOption_receiver (.inr ⟨_, named, rfl⟩))
  | invalidColor invalid => exact .inr ⟨_, _, .invalidColor invalid⟩
  | emptyReceiver => exact .inr ⟨_, _, .emptyReceiver⟩
  | unknown isOpt noColor noReceiver => exact .inr ⟨_, _, .unknown isOpt noColor noReceiver⟩
  | input notOption =>
      by_cases earlier : ∃ earlier ∈ front, isOption earlier = false
      · obtain ⟨earlier, member, earlierInput⟩ := earlier
        exact .inr ⟨_, _, .input notOption member earlierInput⟩
      · have onlyOptions : ∀ other ∈ front, isOption other = true := by simpa using earlier
        refine .inl ⟨fun other member => ?_, ?_⟩
        · rcases List.mem_append.mp member with member | member
          · exact accepted.settings other member
          · obtain rfl := List.mem_singleton.mp member
            simp [notOption]
        · have noInput : front.filter (!isOption ·) = [] := by
            simpa [List.filter_eq_nil_iff] using onlyOptions
          simp [noInput, notOption]

/-- What is accepted with one more argument is described by taking it. -/
theorem take_of_accepted (accepted : Accepted (front ++ [argument])) :
    (described front []).take argument = .ok (described (front ++ [argument]) []) := by
  cases form argument with
  | color choice =>
      have noReceiver : receiverOf? ("--color=" ++ choice.word) = Option.none :=
        receiverOf?_eq_none fun _ => color_ne_receiver
      rw [take_color]
      simp [described, List.filter_append, List.filterMap_append, isOption_color,
        colorOf?_eq_some_iff.mpr rfl, noReceiver]
  | @receiver name named =>
      have noColor : colorOf? ("--receiver=" ++ name) = Option.none :=
        colorOf?_eq_none fun _ => color_ne_receiver.symm
      rw [take_receiver, if_neg named]
      simp [described, List.filter_append, List.filterMap_append, isOption_receiver,
        receiverOf?_eq_some_iff.mpr ⟨named, rfl⟩, noColor]
  | input notOption =>
      have noSetting : colorOf? argument = Option.none ∧ receiverOf? argument = Option.none := by
        constructor
        · refine colorOf?_eq_none ?_
          rintro mode rfl
          cases notOption.symm.trans isOption_color
        · refine receiverOf?_eq_none ?_
          rintro name rfl
          cases notOption.symm.trans isOption_receiver
      have noInput : front.filter (!isOption ·) = [] := by
        have few := accepted.one_input
        simpa [notOption] using few
      rw [take_of_not_isOption notOption]
      simp [described, withInput, List.filterMap_append, noInput, notOption, noSetting]
  | @invalidColor mode invalid =>
      rcases accepted.settings _ List.mem_concat_self isOption_color with
        ⟨choice, same⟩ | ⟨name, -, same⟩
      · exact absurd ((String.append_right_inj _).mp same) (invalid choice)
      · exact absurd same color_ne_receiver
  | emptyReceiver =>
      rcases accepted.settings _ List.mem_concat_self (@isOption_receiver "") with
        ⟨choice, same⟩ | ⟨name, named, same⟩
      · exact absurd same.symm (@color_ne_receiver _ "")
      · have same : "--receiver=" ++ "" = "--receiver=" ++ name := same
        exact absurd ((String.append_right_inj _).mp same).symm named
  | unknown isOpt noColor noReceiver =>
      rcases accepted.settings _ List.mem_concat_self isOpt with ⟨choice, same⟩ | ⟨name, -, same⟩
      · exact absurd same (noColor _)
      · exact absurd same (noReceiver _)

/-! ## All arguments -/

/-- Arguments are taken one part after the other, up to two hyphens alone. -/
theorem takeAll_append (unended : "--" ∉ front) (options : Options) (rest : List String) :
    options.takeAll (front ++ rest) = options.takeAll front >>= (·.takeAll rest) := by
  induction front generalizing options with
  | nil => rfl
  | cons argument front ih =>
      obtain ⟨notEnd, unended⟩ : "--" ≠ argument ∧ "--" ∉ front := by simpa using unended
      rw [List.cons_append, takeAll, takeAll, if_neg (Ne.symm notEnd), if_neg (Ne.symm notEnd)]
      cases options.take argument with
      | ok next => exact ih unended next
      | error error => rfl

/-- Two hyphens alone end the options, and so does the end of the arguments. -/
theorem takeAll_dropWhile (options : Options) (noArguments : options.arguments = [])
    (arguments : List String) :
    options.takeAll (arguments.dropWhile (· ≠ "--")) =
      .ok { options with arguments := (arguments.dropWhile (· ≠ "--")).tail } := by
  cases restEq : arguments.dropWhile (· ≠ "--") with
  | nil =>
      rw [takeAll, List.tail_nil, ← noArguments]
  | cons argument behind =>
      have head := List.head?_dropWhile_not (fun other => decide (other ≠ "--")) arguments
      rw [restEq] at head
      have isEnd : argument = "--" := by simpa using head
      rw [takeAll, if_pos isEnd, List.tail_cons]

theorem takeAll_singleton (notEnd : argument ≠ "--") (options : Options) :
    options.takeAll [argument] = options.take argument := by
  rw [takeAll, if_neg notEnd]
  cases options.take argument <;> rfl

theorem read_of_accepted (accepted : Accepted front) (unended : "--" ∉ front) :
    read front = .ok (described front []) := by
  induction front using List.reverseRecOn with
  | nil => rfl
  | append_singleton front argument ih =>
      obtain ⟨unended, notEnd⟩ : "--" ∉ front ∧ "--" ≠ argument := by simpa using unended
      rw [read, takeAll_append unended, ← read, ih accepted.of_append unended]
      exact (takeAll_singleton notEnd.symm _).trans (take_of_accepted accepted)

/-- An argument that is refused behind accepted ones is what the error is about. -/
theorem read_of_refused (accepted : Accepted front) (unended : "--" ∉ front)
    (notEnd : argument ≠ "--") (refused : Refused front argument error message)
    (rest : List String) :
    read (front ++ argument :: rest) = .error error := by
  rw [read, takeAll_append unended, ← read, read_of_accepted accepted unended]
  change takeAll (described front []) (argument :: rest) = _
  rw [takeAll, if_neg notEnd, take_of_refused refused]

/-- Arguments that are not accepted have a first one that is refused. -/
theorem exists_refused (notAccepted : ¬ Accepted front) :
    ∃ before argument rest error message, front = before ++ argument :: rest ∧
      Accepted before ∧ Refused before argument error message := by
  induction front using List.reverseRecOn with
  | nil => exact absurd ⟨List.forall_mem_nil _, Nat.zero_le 1⟩ notAccepted
  | append_singleton front argument ih =>
      by_cases accepted : Accepted front
      · obtain ⟨error, message, refused⟩ :=
          (accepted_or_refused accepted argument).resolve_left notAccepted
        exact ⟨front, argument, [], error, message, rfl, accepted, refused⟩
      · obtain ⟨before, earlier, rest, error, message, rfl, accepted, refused⟩ := ih accepted
        exact ⟨before, earlier, rest ++ [argument], error, message, by simp, accepted, refused⟩

/-! ## Settings in another order -/

/-- The same arguments, with the input and the settings of different kinds in another order. -/
structure Rearranged (first second : List String) : Prop where
  perm : first.Perm second
  colors : first.filterMap colorOf? = second.filterMap colorOf?
  receivers : first.filterMap receiverOf? = second.filterMap receiverOf?

variable {other : List String}

theorem Accepted.perm (accepted : Accepted front) (same : front.Perm other) : Accepted other where
  settings argument member := accepted.settings argument (same.mem_iff.mpr member)
  one_input := by
    rw [← (same.filter (!isOption ·)).length_eq]
    exact accepted.one_input

/-- What accepted arguments stand for depends only on the order of the settings of one kind. -/
theorem Rearranged.described_eq (rearranged : Rearranged front other)
    (accepted : Accepted front) : described front behind = described other behind := by
  have permuted := rearranged.perm.filter (!isOption ·)
  have few := accepted.one_input
  have inputs : front.filter (!isOption ·) = other.filter (!isOption ·) := by
    generalize front.filter (!isOption ·) = own at permuted few
    rcases own with _ | ⟨first, _ | ⟨second, more⟩⟩
    · exact permuted.nil_eq
    · exact permuted.singleton_eq
    · simp at few
  rw [described, described, inputs, rearranged.colors, rearranged.receivers]

/-! ## The arguments of a command -/

variable {arguments : List String}

theorem not_mem_takeWhile (arguments : List String) : "--" ∉ arguments.takeWhile (· ≠ "--") := by
  intro member
  simpa using List.mem_takeWhile_imp member

theorem read_of_accepted_takeWhile (accepted : Accepted (arguments.takeWhile (· ≠ "--"))) :
    read arguments = .ok (described (arguments.takeWhile (· ≠ "--"))
      (arguments.dropWhile (· ≠ "--")).tail) := by
  have unended := not_mem_takeWhile arguments
  calc read arguments
      = read (arguments.takeWhile (· ≠ "--") ++ arguments.dropWhile (· ≠ "--")) := by
        rw [List.takeWhile_append_dropWhile]
    _ = read (arguments.takeWhile (· ≠ "--")) >>=
          (·.takeAll (arguments.dropWhile (· ≠ "--"))) := takeAll_append unended none _
    _ = (described (arguments.takeWhile (· ≠ "--")) []).takeAll
          (arguments.dropWhile (· ≠ "--")) := by rw [read_of_accepted accepted unended]; rfl
    _ = _ := takeAll_dropWhile _ rfl arguments

theorem exists_read_of_refused (notAccepted : ¬ Accepted (arguments.takeWhile (· ≠ "--"))) :
    ∃ front argument rest error message, arguments = front ++ argument :: rest ∧ "--" ∉ front ∧
      argument ≠ "--" ∧ Accepted front ∧ Refused front argument error message ∧
      ∀ others, read (front ++ argument :: others) = .error error := by
  obtain ⟨front, argument, more, error, message, frontEq, accepted, refused⟩ :=
    exists_refused notAccepted
  have unended := not_mem_takeWhile arguments
  have argumentsEq := List.takeWhile_append_dropWhile (p := (· ≠ "--")) (l := arguments)
  rw [frontEq] at unended argumentsEq
  rw [List.append_assoc, List.cons_append] at argumentsEq
  obtain ⟨unended, notEnd, -⟩ : "--" ∉ front ∧ "--" ≠ argument ∧ "--" ∉ more := by
    simpa using unended
  exact ⟨front, argument, _, error, message, argumentsEq.symm, unended, notEnd.symm, accepted,
    refused, read_of_refused accepted unended notEnd.symm refused⟩

theorem read_eq_ok_iff :
    read arguments = .ok options ↔ Accepted (arguments.takeWhile (· ≠ "--")) ∧
      options = described (arguments.takeWhile (· ≠ "--"))
        (arguments.dropWhile (· ≠ "--")).tail := by
  by_cases accepted : Accepted (arguments.takeWhile (· ≠ "--"))
  · rw [read_of_accepted_takeWhile accepted, Except.ok.injEq, eq_comm]
    exact (and_iff_right accepted).symm
  · obtain ⟨front, argument, rest, error, -, argumentsEq, -, -, -, -, stopped⟩ :=
      exists_read_of_refused accepted
    have failed : read arguments = .error error := by rw [argumentsEq, stopped]
    constructor
    · intro taken
      cases failed.symm.trans taken
    · rintro ⟨acceptedToo, -⟩
      exact absurd acceptedToo accepted

theorem read_eq_error_iff :
    read arguments = .error error ∧ error.message = message ↔
      ∃ front argument rest, arguments = front ++ argument :: rest ∧ "--" ∉ front ∧
        argument ≠ "--" ∧ Accepted front ∧ Refused front argument error message := by
  constructor
  · rintro ⟨failed, rfl⟩
    have notAccepted : ¬ Accepted (arguments.takeWhile (· ≠ "--")) := by
      intro accepted
      cases failed.symm.trans (read_of_accepted_takeWhile accepted)
    obtain ⟨front, argument, rest, found, message, argumentsEq, unended, notEnd, accepted, refused,
      stopped⟩ := exists_read_of_refused notAccepted
    obtain rfl : found = error :=
      Except.error.inj ((stopped rest).symm.trans (argumentsEq ▸ failed))
    obtain rfl := message_of_refused refused
    exact ⟨front, argument, rest, argumentsEq, unended, notEnd, accepted, refused⟩
  · rintro ⟨front, argument, rest, rfl, unended, notEnd, accepted, refused⟩
    exact ⟨read_of_refused accepted unended notEnd refused rest, message_of_refused refused⟩

/-- Arguments are read as options if and only if those in front of two hyphens alone are accepted,
and then as what these stand for; the input and settings of different kinds may be rearranged.  If
they are not read, the error and its message are those for the first argument that is refused behind
accepted ones, whatever follows it. -/
theorem read_exact (arguments : List String) :
    (∀ options, read arguments = .ok options ↔
      Accepted (arguments.takeWhile (· ≠ "--")) ∧
        options = described (arguments.takeWhile (· ≠ "--"))
          (arguments.dropWhile (· ≠ "--")).tail) ∧
    (∀ error message, read arguments = .error error ∧ error.message = message ↔
      ∃ front argument rest, arguments = front ++ argument :: rest ∧ "--" ∉ front ∧
        argument ≠ "--" ∧ Accepted front ∧ Refused front argument error message ∧
        ∀ others, read (front ++ argument :: others) = read arguments) ∧
    ∀ others, Rearranged (arguments.takeWhile (· ≠ "--")) (others.takeWhile (· ≠ "--")) →
      arguments.dropWhile (· ≠ "--") = others.dropWhile (· ≠ "--") →
        ∀ options, read arguments = .ok options → read others = .ok options := by
  refine ⟨fun options => read_eq_ok_iff, fun error message => ?_, ?_⟩
  · rw [read_eq_error_iff]
    constructor
    · rintro ⟨front, argument, rest, rfl, unended, notEnd, accepted, refused⟩
      have stopped := read_of_refused accepted unended notEnd refused
      exact ⟨front, argument, rest, rfl, unended, notEnd, accepted, refused, fun others =>
        (stopped others).trans (stopped rest).symm⟩
    · rintro ⟨front, argument, rest, argumentsEq, unended, notEnd, accepted, refused, -⟩
      exact ⟨front, argument, rest, argumentsEq, unended, notEnd, accepted, refused⟩
  · intro others rearranged sameRest options taken
    obtain ⟨accepted, rfl⟩ := read_eq_ok_iff.mp taken
    refine read_eq_ok_iff.mpr ⟨accepted.perm rearranged.perm, ?_⟩
    rw [rearranged.described_eq accepted, sameRest]

/-- Settings of both kinds around an input, one of them twice, and a program argument that looks
like a setting; and a second input in front of a colour and an option that do not exist. -/
theorem read_exact_rearranged :
    let first := ["--color=never", "a", "--receiver=env", "--color=always", "--", "--color=x"]
    let second := ["--receiver=env", "--color=never", "--color=always", "a", "--", "--color=x"]
    let options : Options :=
      { input := some "a", color := .always, receiver := some "env", arguments := ["--color=x"] }
    let refused := ["a", "--color=never", "b", "--color=red", "--verbose"]
    Rearranged (first.takeWhile (· ≠ "--")) (second.takeWhile (· ≠ "--")) ∧
      first.dropWhile (· ≠ "--") = second.dropWhile (· ≠ "--") ∧
      read first = .ok options ∧ read second = .ok options ∧
      (read refused).mapError OptionError.message = .error "unexpected argument 'b'" ∧
      ∃ front argument rest, refused = front ++ argument :: rest ∧ "--" ∉ front ∧
        argument ≠ "--" ∧ Accepted front ∧
        Refused front argument (.unexpectedArgument "b") "unexpected argument 'b'" ∧
        ∀ others, read (front ++ argument :: others) = read refused := by
  intro first second options refused
  have rearranged : Rearranged (first.takeWhile (· ≠ "--")) (second.takeWhile (· ≠ "--")) :=
    ⟨by decide, by decide, by decide⟩
  have taken : read first = .ok options := by decide
  have failed : read refused = .error (.unexpectedArgument "b") := by decide
  have said : (OptionError.unexpectedArgument "b").message = "unexpected argument 'b'" := by decide
  exact ⟨rearranged, by decide, taken,
    (read_exact first).2.2 second rearranged (by decide) options taken,
    by decide, ((read_exact refused).2.1 _ _).mp ⟨failed, said⟩⟩

end Options

end Focal
