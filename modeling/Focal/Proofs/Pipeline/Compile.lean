import Focal.Pipeline.Compile
import Focal.Proofs.Syntax.Agreement
import Focal.Proofs.Syntax.Soundness

/-!
# What is compiled, and to what

A source compiles exactly when it derives a program of the grammar, and then to the translation of
that program (`compile_exact`).  What the translation is, is said apart from the function that makes
it (`Translates`): one rule for each form that a part of a program can have.

Read slot by slot, the steps of a program are those of its slots one after another; a slot has the
steps of its segments with a reset between every two of them, a nothing in the place of a last
segment that is empty, and a commit.
-/

namespace Focal

open Syntax

variable {ι : Type}

namespace Syntax

/-! ## The parts of a program -/

/-- The segments of a slot in order. -/
def Slot.segments : Slot → List Segment
  | .last segment => [segment]
  | .andThen segment rest => segment :: rest.segments

/-- The slots of a program in order, without a last one that holds no token. -/
def Program.committed : Program → List Slot
  | .last (.last .empty) => []
  | .last slot => [slot]
  | .andThen slot rest => slot :: rest.committed

/-- Whether nothing stands behind the last semicolon of a slot. -/
def Slot.endsEmpty : Slot → Bool
  | .last .empty => true
  | .last (.term _) => false
  | .andThen _ rest => rest.endsEmpty

/-! ## The steps of the parts -/

/-- The steps of what stands between two separators. -/
def Segment.steps : Segment → Pipeline ι (Value ι)
  | .empty => []
  | .term tree => tree.steps

/-- The steps of a slot, read off its segments. -/
def Slot.translation (slot : Slot) : Pipeline ι (Value ι) :=
  List.intercalate [.reset] (slot.segments.map Segment.steps) ++
    (if slot.endsEmpty then [.nothing "nothing"] else []) ++ [.commit]

theorem Slot.segments_ne_nil (slot : Slot) : slot.segments ≠ [] := by
  cases slot <;> simp [segments]

theorem Slot.steps_eq_translation (slot : Slot) :
    (slot.steps : Pipeline ι (Value ι)) = slot.translation := by
  match slot with
  | .last .empty => rfl
  | .last (.term term) => simp [steps, translation, segments, endsEmpty, Segment.steps]
  | .andThen segment rest =>
      obtain ⟨next, others, restEq⟩ := List.exists_cons_of_ne_nil rest.segments_ne_nil
      have endsEq : (Slot.andThen segment rest).endsEmpty = rest.endsEmpty := rfl
      have translated : (Slot.andThen segment rest).translation =
          (segment.steps : Pipeline ι (Value ι)) ++ .reset :: rest.translation := by
        simp [translation, endsEq, segments, restEq, List.intercalate_cons_cons]
      rw [translated, ← rest.steps_eq_translation]
      cases segment <;> simp [steps, Segment.steps]

theorem Program.steps_eq_translation (program : Program) :
    (program.steps : Pipeline ι (Value ι)) = program.committed.flatMap Slot.translation := by
  cases program with
  | last slot =>
      cases slot with
      | last segment =>
          cases segment with
          | empty => rfl
          | term tree => simp [steps, committed, Slot.steps_eq_translation]
      | andThen segment rest => simp [steps, committed, Slot.steps_eq_translation]
  | andThen slot rest =>
      simp [steps, committed, Slot.steps_eq_translation, rest.steps_eq_translation]

/-! ## The translation -/

/-- A phrase has these steps.  Each name, literal, group, block, call and member has one step of its
own, and that of a group, block or call holds the steps of the program inside it; the receiver has
none.  Bodies of white space alone have fixed steps in each of the three places. -/
inductive Translates : Phrase → Pipeline ι (Value ι) → Prop
  | receiver : Translates (.term .receiver) []
  | name (name : String) : Translates (.term (.name name)) [.lookup name]
  | str (text : String) :
      Translates (.term (.str text)) [.replace ("str " ++ Text.quoted text) (.str text)]
  | int (value : Int64) :
      Translates (.term (.int value)) [.replace ("int " ++ toString value.toInt) (.int value)]
  | float (value : Float) :
      Translates (.term (.float value))
        [.replace ("float " ++ Decimal.floatText value) (.float value)]
  | blankGroup : Translates (.term (.group .blank)) [.replace "group ()" .nothing]
  | group {program : Program} {inner : Pipeline ι (Value ι)}
      (inside : Translates (.program program) inner) :
      Translates (.term (.group (.program program))) [.group inner]
  | blankBlock :
      Translates (.term (.block .blank)) [.block [.replace "nothing" .nothing, .commit]]
  | block {program : Program} {inner : Pipeline ι (Value ι)}
      (inside : Translates (.program program) inner) :
      Translates (.term (.block (.program program))) [.block inner]
  | blankCall {target : Term} {steps : Pipeline ι (Value ι)}
      (called : Translates (.term target) steps) :
      Translates (.term (.call target .blank)) (steps ++ [.call []])
  | call {target : Term} {program : Program} {steps arguments : Pipeline ι (Value ι)}
      (called : Translates (.term target) steps)
      (inside : Translates (.program program) arguments) :
      Translates (.term (.call target (.program program))) (steps ++ [.call arguments])
  | member {target : Term} {name : String} {steps : Pipeline ι (Value ι)}
      (accessed : Translates (.term target) steps) :
      Translates (.term (.member target name)) (steps ++ [.member name])
  | empty : Translates (.segment .empty) []
  | segment {term : Term} {steps : Pipeline ι (Value ι)}
      (inside : Translates (.term term) steps) : Translates (.segment (.term term)) steps
  /-- In the place of a last segment that is empty stands the value `nothing`. -/
  | emptySlot : Translates (.slot (.last .empty)) [.replace "nothing" .nothing, .commit]
  | slot {term : Term} {steps : Pipeline ι (Value ι)} (inside : Translates (.term term) steps) :
      Translates (.slot (.last (.term term))) (steps ++ [.commit])
  | semicolon {segment : Segment} {slot : Slot} {steps more : Pipeline ι (Value ι)}
      (first : Translates (.segment segment) steps) (others : Translates (.slot slot) more) :
      Translates (.slot (.andThen segment slot)) (steps ++ .reset :: more)
  /-- A last slot that holds no token has no steps. -/
  | noToken : Translates (.program (.last (.last .empty))) []
  | lastSlot {slot : Slot} {steps : Pipeline ι (Value ι)} (token : slot ≠ .last .empty)
      (only : Translates (.slot slot) steps) : Translates (.program (.last slot)) steps
  | comma {slot : Slot} {program : Program} {steps more : Pipeline ι (Value ι)}
      (first : Translates (.slot slot) steps) (others : Translates (.program program) more) :
      Translates (.program (.andThen slot program)) (steps ++ more)

/-- A phrase has one translation at most. -/
theorem Translates.unique {phrase : Phrase} {steps others : Pipeline ι (Value ι)}
    (translates : Translates phrase steps) (otherwise : Translates phrase others) :
    steps = others := by
  induction translates generalizing others with
  | receiver | name | str | int | float | blankGroup | blankBlock | empty | emptySlot =>
      cases otherwise
      rfl
  | group _ ih =>
      cases otherwise with
      | group inside => rw [ih inside]
  | block _ ih =>
      cases otherwise with
      | block inside => rw [ih inside]
  | blankCall _ ih =>
      cases otherwise with
      | blankCall called => rw [ih called]
  | call _ _ calledIh insideIh =>
      cases otherwise with
      | call called inside => rw [calledIh called, insideIh inside]
  | member _ ih =>
      cases otherwise with
      | member accessed => rw [ih accessed]
  | segment _ ih =>
      cases otherwise with
      | segment inside => exact ih inside
  | slot _ ih =>
      cases otherwise with
      | slot inside => rw [ih inside]
  | semicolon _ _ firstIh othersIh =>
      cases otherwise with
      | semicolon first others => rw [firstIh first, othersIh others]
  | noToken =>
      cases otherwise with
      | noToken => rfl
      | lastSlot token _ => exact absurd rfl token
  | lastSlot token _ ih =>
      cases otherwise with
      | noToken => exact absurd rfl token
      | lastSlot _ only => exact ih only
  | comma _ _ firstIh othersIh =>
      cases otherwise with
      | comma first others => rw [firstIh first, othersIh others]

mutual

/-- The steps of a term are its translation. -/
theorem Term.translates (term : Term) :
    Translates (.term term) (term.steps : Pipeline ι (Value ι)) := by
  match term with
  | .receiver => exact .receiver
  | .name name => exact .name name
  | .str text => exact .str text
  | .int value => exact .int value
  | .float value => exact .float value
  | .group .blank => exact .blankGroup
  | .group (.program program) => exact .group program.translates
  | .block .blank => exact .blankBlock
  | .block (.program program) => exact .block program.translates
  | .call target .blank => exact .blankCall target.translates
  | .call target (.program arguments) => exact .call target.translates arguments.translates
  | .member target name => exact .member target.translates

/-- The steps of a slot are its translation. -/
theorem Slot.translates (slot : Slot) :
    Translates (.slot slot) (slot.steps : Pipeline ι (Value ι)) := by
  match slot with
  | .last .empty => exact .emptySlot
  | .last (.term term) => exact .slot term.translates
  | .andThen .empty rest => exact .semicolon .empty rest.translates
  | .andThen (.term term) rest => exact .semicolon (.segment term.translates) rest.translates

/-- The steps of a program are its translation. -/
theorem Program.translates (program : Program) :
    Translates (.program program) (program.steps : Pipeline ι (Value ι)) := by
  match program with
  | .last (.last .empty) => exact .noToken
  | .last (.last (.term term)) => exact .lastSlot nofun (.slot term.translates)
  | .last (.andThen segment rest) =>
      exact .lastSlot nofun (Slot.translates (.andThen segment rest))
  | .andThen slot rest => exact .comma slot.translates rest.translates

end

theorem translates_program_iff {program : Program} {pipeline : Pipeline ι (Value ι)} :
    Translates (.program program) pipeline ↔ program.steps = pipeline := by
  constructor
  · exact program.translates.unique
  · rintro rfl
    exact program.translates

end Syntax

/-! ## Compilation -/

/-- A source that is read compiles to the steps of what it is read as. -/
theorem compile_of_read {source : String} {program : Program}
    (read : Reading.program Draft.empty source.toList = .ok program) :
    compile source = .ok (program.steps : Pipeline ι (Value ι)) := by
  have settled := ofSource_settles source
  rw [read] at settled
  rw [compile, show Program.ofSource source = .ok program from settled]
  rfl

theorem compile_eq_ok_iff {source : String} {pipeline : Pipeline ι (Value ι)} :
    compile source = .ok pipeline ↔
      ∃ program, Derives (.program program) source.toList [] ∧ program.steps = pipeline := by
  constructor
  · intro compiled
    cases readEq : Reading.program Draft.empty source.toList with
    | ok program =>
        rw [compile_of_read readEq] at compiled
        exact ⟨program, derives_of_read readEq, Except.ok.inj compiled⟩
    | error offence =>
        have settled := ofSource_settles source
        rw [readEq] at settled
        rcases settled with ⟨_, _, _, scanned⟩
        rw [compile, scanned] at compiled
        cases compiled
  · rintro ⟨program, derives, rfl⟩
    exact compile_of_read derives.read

/-- A source compiles if and only if it derives a program, which is then the only one; and it
compiles to the translation of that program.  Every program, those in bodies included, has exactly
one translation, which is that of its slots one after another. -/
theorem compile_exact (source : String) :
    ((∃ pipeline : Pipeline ι (Value ι), compile source = .ok pipeline) ↔
        ∃! program, Derives (.program program) source.toList []) ∧
      (∀ pipeline : Pipeline ι (Value ι), compile source = .ok pipeline ↔
        ∃ program, Derives (.program program) source.toList [] ∧
          Translates (.program program) pipeline) ∧
      ∀ (nested : Program) (pipeline : Pipeline ι (Value ι)),
        Translates (.program nested) pipeline ↔
          pipeline = nested.committed.flatMap Slot.translation := by
  refine ⟨⟨?_, ?_⟩, fun pipeline => ?_, fun nested pipeline => ?_⟩
  · rintro ⟨pipeline, compiled⟩
    obtain ⟨program, derives, _⟩ := compile_eq_ok_iff.mp compiled
    exact ⟨program, derives, fun other otherDerives => otherDerives.unique derives⟩
  · rintro ⟨program, derives, _⟩
    exact ⟨program.steps, compile_eq_ok_iff.mpr ⟨program, derives, rfl⟩⟩
  · simp only [compile_eq_ok_iff, translates_program_iff]
  · rw [translates_program_iff, nested.steps_eq_translation, eq_comm]

/-- Every form of term, slots whose last segment is empty, bodies in bodies, white space that only a
blank body may have, and the largest integer; the next one is refused. -/
theorem compile_exact_every_form :
    let source := "q.add(\"s\", (\u00a0)) ;\r\n\t(9223372036854775807;, 2.5)," ++
      "\x7b this(\x7b\x7d) \x7d();,"
    let pipeline : Pipeline Empty (Value Empty) :=
      [.lookup "q", .member "add",
        .call [.replace "str \"s\"" (.str "s"), .commit, .replace "group ()" .nothing, .commit],
        .reset,
        .group [.replace "int 9223372036854775807" (.int 9223372036854775807), .reset,
          .replace "nothing" .nothing, .commit,
          .replace ("float " ++ Decimal.floatText (Decimal.nearest 25 (-1)))
            (.float (Decimal.nearest 25 (-1))), .commit],
        .commit,
        .block [.call [.block [.replace "nothing" .nothing, .commit], .commit], .commit],
        .call [], .reset, .replace "nothing" .nothing, .commit]
    (∃! program, Derives (.program program) source.toList []) ∧
      compile source = .ok pipeline ∧
      pipeline.text = "[Map(lookup q), Map(member .add), Splice(call (4 steps)), " ++
        "Modify(reset), Splice(group (6 steps)), Modify(commit), Map(closure (2 steps)), " ++
        "Splice(call ()), Modify(reset), Replace(nothing), Modify(commit)]" ∧
      ¬ ∃ other : Pipeline Empty (Value Empty), compile "9223372036854775808" = .ok other := by
  intro source pipeline
  have read : Reading.program Draft.empty
      ("q.add(\"s\", (\u00a0)) ;\r\n\t(9223372036854775807;, 2.5)," ++
        "\x7b this(\x7b\x7d) \x7d();,").toList =
        .ok (.andThen
          (.andThen
            (.term (.call (.member (.name "q") "add") (.program
              (.andThen (.last (.term (.str "s"))) (.last (.last (.term (.group .blank))))))))
            (.last (.term (.group (.program
              (.andThen (.andThen (.term (.int 9223372036854775807)) (.last .empty))
                (.last (.last (.term (.float (Decimal.nearest 25 (-1))))))))))))
          (.andThen
            (.andThen
              (.term (.call (.block (.program (.last (.last (.term (.call .receiver
                (.program (.last (.last (.term (.block .blank))))))))))) .blank))
              (.last .empty))
            (.last (.last .empty)))) := rfl
  have compiled : compile source = .ok pipeline :=
    ((compile_exact source).2.1 pipeline).mpr
      ⟨_, derives_of_read read, Program.translates _⟩
  have tooLarge : Reading.program Draft.empty "9223372036854775808".toList =
      .error ⟨.integerTooLarge "9223372036854775808", "9223372036854775808".toList⟩ := rfl
  refine ⟨(compile_exact source).1.mp ⟨pipeline, compiled⟩, compiled, by decide +kernel, ?_⟩
  intro otherCompiled
  obtain ⟨program, derives, -⟩ := (compile_exact "9223372036854775808").1.mp otherCompiled
  cases tooLarge.symm.trans derives.read

end Focal
