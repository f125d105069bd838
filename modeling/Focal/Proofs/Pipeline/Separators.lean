import Focal.Proofs.Pipeline.Errors
import Focal.Proofs.Syntax.Separators

/-!
# Sources joined by a separator

Two sources that compile also compile with a comma or a semicolon between them, to the steps of both
and what the separator needs (`compile_separated`).  A draft stands for the steps that were emitted
for what it holds (`Draft.emitted`); a comma closes its slot, a semicolon adds a reset, and the steps
of the second source follow, which do not depend on the draft (`Draft.steps_extend`).
-/

namespace Focal

open Syntax
open Text (terminators Whole)

variable {ι : Type}

namespace Syntax

/-! ## Steps of joined parts -/

/-- The steps of segments that others follow. -/
def Segment.resetSteps (segment : Segment) : Pipeline ι (Value ι) :=
  segment.steps ++ [.reset]

theorem Slot.steps_andThen (segment : Segment) (rest : Slot) :
    ((Slot.andThen segment rest).steps : Pipeline ι (Value ι)) =
      segment.resetSteps ++ rest.steps := by
  cases segment <;> simp [Slot.steps, Segment.resetSteps, Segment.steps]

theorem Slot.steps_behind (slot : Slot) (earlier : List Segment) :
    ((slot.behind earlier).steps : Pipeline ι (Value ι)) =
      earlier.reverse.flatMap Segment.resetSteps ++ slot.steps := by
  induction earlier generalizing slot with
  | nil => rfl
  | cons segment earlier ih =>
      have moved : slot.behind (segment :: earlier) = (Slot.andThen segment slot).behind earlier :=
        rfl
      rw [moved, ih, Slot.steps_andThen]
      simp

theorem Program.steps_behind (program : Program) (earlier : List Slot) :
    ((program.behind earlier).steps : Pipeline ι (Value ι)) =
      earlier.reverse.flatMap Slot.steps ++ program.steps := by
  induction earlier generalizing program with
  | nil => rfl
  | cons slot earlier ih =>
      have moved : program.behind (slot :: earlier) = (Program.andThen slot program).behind earlier :=
        rfl
      rw [moved, ih]
      simp [Program.steps]

/-- A slot that holds a token has its steps even at the end of a program. -/
theorem Program.steps_last {slot : Slot} (touched : slot ≠ .last .empty) :
    ((Program.last slot).steps : Pipeline ι (Value ι)) = slot.steps := by
  cases slot with
  | last segment =>
      cases segment with
      | empty => exact absurd rfl touched
      | term tree => rfl
  | andThen segment rest => rfl

/-- The steps of a program with a first slot that counts even if no token stands in it. -/
def Program.touchedSteps : Program → Pipeline ι (Value ι)
  | .last slot => slot.steps
  | .andThen slot rest => slot.steps ++ rest.steps

/-! ## Steps of a draft -/

/-- The steps with which a comma ends a slot. -/
def Ending.commit : Ending → Pipeline ι (Value ι)
  | .slot | .segment => [.nothing "nothing", .commit]
  | .term => [.commit]

/-- The steps with which the end of a source ends a slot. -/
def Ending.closing : Ending → Pipeline ι (Value ι)
  | .slot => []
  | .segment => [.nothing "nothing", .commit]
  | .term => [.commit]

theorem Ending.commit_eq (ending : Ending) :
    (ending.commit : Pipeline ι (Value ι)) =
      ending.closing ++ if ending = .slot then [.nothing "nothing", .commit] else [] := by
  cases ending <;> rfl

namespace Draft

/-- The steps of what a draft holds. -/
def emitted (draft : Draft) : Pipeline ι (Value ι) :=
  draft.slots.reverse.flatMap Slot.steps ++ draft.segments.reverse.flatMap Segment.resetSteps ++
    (Segment.ofTerm? draft.term).steps

theorem steps_slot (draft : Draft) :
    (draft.slot.steps : Pipeline ι (Value ι)) =
      draft.segments.reverse.flatMap Segment.resetSteps ++
        (Segment.ofTerm? draft.term).steps ++ draft.ending.commit := by
  rcases draft with ⟨slots, segments, _ | tree⟩
  · rw [slot, Slot.steps_behind]
    cases segments <;> simp [Segment.ofTerm?, Slot.steps, Segment.steps, ending, Ending.commit]
  · simp [slot, Slot.steps_behind, Segment.ofTerm?, Slot.steps, Segment.steps, ending,
      Ending.commit]

theorem emitted_closeSlot (draft : Draft) :
    (draft.closeSlot.emitted : Pipeline ι (Value ι)) = draft.emitted ++ draft.ending.commit := by
  simp [emitted, closeSlot, steps_slot, Segment.ofTerm?, Segment.steps]

theorem emitted_closeSegment (draft : Draft) :
    (draft.closeSegment.emitted : Pipeline ι (Value ι)) = draft.emitted ++ [.reset] := by
  simp [emitted, closeSegment, Segment.ofTerm?, Segment.steps, Segment.resetSteps]

/-- The end of a program commits the current slot unless it holds no token. -/
theorem steps_finish (draft : Draft) :
    (draft.finish.steps : Pipeline ι (Value ι)) = draft.emitted ++ draft.ending.closing := by
  rw [finish, Program.steps_behind]
  by_cases untouched : draft.segments = [] ∧ draft.term = none
  · rcases draft with ⟨slots, segments, term⟩
    obtain ⟨rfl, rfl⟩ := untouched
    simp [slot, Slot.behind, Segment.ofTerm?, Program.steps, emitted, Segment.steps, ending,
      Ending.closing]
  · have touched : draft.slot ≠ .last .empty := by
      refine Slot.behind_ne_empty ?_
      cases termEq : draft.term <;> simp_all [Segment.ofTerm?]
    have closes : (draft.ending.commit : Pipeline ι (Value ι)) = draft.ending.closing := by
      rcases draft with ⟨slots, _ | ⟨segment, segments⟩, _ | tree⟩
      · exact absurd ⟨rfl, rfl⟩ untouched
      · rfl
      · rfl
      · rfl
    rw [Program.steps_last touched, steps_slot, closes, emitted]
    simp

/-- What is read behind a draft adds its own steps to those of the draft. -/
theorem steps_extend {draft : Draft} (vacant : draft.term = none) (tree : Program) :
    ((draft.extend tree).steps : Pipeline ι (Value ι)) =
      draft.emitted ++ (if draft.segments = [] then tree.steps else tree.touchedSteps) := by
  rw [extend, Program.steps_behind, emitted, vacant]
  by_cases fresh : draft.segments = []
  · rw [fresh]
    cases tree <;> simp [Program.mapFirst, Slot.behind, Segment.ofTerm?, Segment.steps]
  · cases tree with
    | last slot =>
        have touched := @Slot.behind_ne_empty slot draft.segments (Or.inl fresh)
        simp [Program.mapFirst, Program.steps_last touched, Slot.steps_behind, fresh,
          Program.touchedSteps, Segment.ofTerm?, Segment.steps]
    | andThen slot rest =>
        simp [Program.mapFirst, Program.steps, Slot.steps_behind, fresh,
          Program.touchedSteps, Segment.ofTerm?, Segment.steps]

end Draft

theorem Program.touchedSteps_of_read {text : List Char} {tree : Program}
    (read : Reading.program Draft.empty text = .ok tree) :
    (tree.touchedSteps : Pipeline ι (Value ι)) =
      if text.all Source.Cursor.isTrivia then [.nothing "nothing", .commit] else tree.steps := by
  by_cases around : Trivia text
  · obtain rfl := Except.ok.inj (read.symm.trans (Reading.program_eq_empty_iff.mpr around))
    rw [if_pos (List.all_eq_true.mpr around)]
    rfl
  · rw [if_neg (fun trivia => around (List.all_eq_true.mp trivia))]
    cases tree with
    | last slot =>
        have touched : slot ≠ .last .empty := by
          rintro rfl
          exact around (Reading.program_eq_empty_iff.mp read)
        rw [Program.steps_last touched, touchedSteps]
    | andThen slot rest => rfl

end Syntax

/-- An offence behind another source and a separator is reported as many lines further on as the
other source has terminators. -/
theorem compile_of_offence_joined {source : String} {offence : Offence} (earlier : List Char)
    (separator : Char) (front : List Char) (separates : isSeparator separator = true)
    (sourceEq : source.toList = earlier ++ separator :: (front ++ offence.rest))
    (read : Reading.program Draft.empty source.toList = .error offence) :
    (compile source : Except Failure (Pipeline ι (Value ι))) = .error (.invalid
      { line := 1 + terminators front + terminators earlier, kind := offence.kind }) := by
  have inside : Text.isTerminator separator = false := by
    rcases isSeparator_cases separates with rfl | rfl <;> decide
  have counted : terminators (earlier ++ separator :: front) =
      terminators front + terminators earlier := by
    rw [Text.terminators_append (Whole.of_head_inside _ _ inside), Text.terminators_cons _ inside,
      Nat.add_comm]
  have failed := (@compile_of_offence ι _ _ (earlier ++ separator :: front) read
    (by rw [sourceEq]; simp)).2
  rw [failed, counted, Nat.add_assoc]

/-- Two sources that compile also compile with a separator between them: behind a comma the steps of
the second source follow those of the first, with a nothing for a last slot of the first that holds
no token; behind a semicolon they follow a reset in the place of the steps that close the last slot
of the first, with a nothing for a second source that holds no token.  If the second source fails to
compile, both fail as it does, further down by the lines of the first. -/
theorem compile_separated {first : String} {firstSteps : Pipeline ι (Value ι)}
    (compiled : compile first = .ok firstSteps) :
    ∃ core, firstSteps = core ++ (Ending.slot.after first.toList).closing ∧
      (∀ second secondSteps, compile second = .ok secondSteps →
        compile (first ++ "," ++ second) = .ok (firstSteps ++
          (if Ending.slot.after first.toList = .slot then [.nothing "nothing", .commit] else []) ++
          secondSteps) ∧
        compile (first ++ ";" ++ second) = .ok (core ++ .reset ::
          (if second.toList.all Source.Cursor.isTrivia then [.nothing "nothing", .commit]
          else secondSteps))) ∧
      ∀ second failure, compile second = (.error failure : Except Failure (Pipeline ι (Value ι))) →
        ∃ error, failure = .invalid error ∧
          compile (first ++ "," ++ second) = (.error (.invalid
            { error with line := error.line + terminators first.toList }) :
              Except Failure (Pipeline ι (Value ι))) ∧
          compile (first ++ ";" ++ second) = (.error (.invalid
            { error with line := error.line + terminators first.toList }) :
              Except Failure (Pipeline ι (Value ι))) := by
  obtain ⟨tree, derives, rfl⟩ := compile_eq_ok_iff.mp compiled
  obtain ⟨draft, rfl, endingEq, joined⟩ := Reading.exists_draft_of_joined derives.read
  rw [← endingEq]
  refine ⟨draft.emitted, draft.steps_finish, ?_, ?_⟩
  · intro second secondSteps secondCompiled
    obtain ⟨secondTree, secondDerives, rfl⟩ := compile_eq_ok_iff.mp secondCompiled
    obtain ⟨byComma, bySemicolon⟩ := joined second.toList
    rw [secondDerives.read] at byComma bySemicolon
    constructor
    · have read : Reading.program Draft.empty (first ++ "," ++ second).toList =
          .ok (draft.closeSlot.extend secondTree) := by simpa [Except.map] using byComma
      have fresh : draft.closeSlot.segments = [] := rfl
      rw [compile_of_read read, Draft.steps_extend rfl, if_pos fresh, Draft.emitted_closeSlot,
        Ending.commit_eq, Draft.steps_finish, ← List.append_assoc draft.emitted]
    · have read : Reading.program Draft.empty (first ++ ";" ++ second).toList =
          .ok (draft.closeSegment.extend secondTree) := by simpa [Except.map] using bySemicolon
      have begun : draft.closeSegment.segments ≠ [] := List.cons_ne_nil _ _
      rw [compile_of_read read, Draft.steps_extend rfl, if_neg begun,
        Draft.emitted_closeSegment, Program.touchedSteps_of_read secondDerives.read,
        List.append_assoc, List.singleton_append]
  · intro second failure failed
    cases secondRead : Reading.program Draft.empty second.toList with
    | ok secondTree => cases (compile_of_read secondRead).symm.trans failed
    | error offence =>
        obtain ⟨byComma, bySemicolon⟩ := joined second.toList
        rw [secondRead] at byComma bySemicolon
        have settled := ofSource_settles second
        rw [secondRead] at settled
        obtain ⟨front, secondEq, -, -⟩ := settled
        have failedHere := (@compile_of_offence ι _ _ front secondRead secondEq).2
        refine ⟨_, Except.error.inj (failed.symm.trans failedHere), ?_, ?_⟩
        · exact compile_of_offence_joined first.toList ',' front (by decide) (by simp [secondEq])
            (by simpa [Except.map] using byComma)
        · exact compile_of_offence_joined first.toList ';' front (by decide) (by simp [secondEq])
            (by simpa [Except.map] using bySemicolon)

/-- A slot that ends with a semicolon, and a second source that fails on its second line. -/
theorem compile_separated_semicolon :
    (compile "a;" : Except Failure (Pipeline Unit (Value Unit))) =
        .ok [.lookup "a", .reset, .replace "nothing" .nothing, .commit] ∧
      (compile ("a;" ++ ";" ++ "b") : Except Failure (Pipeline Unit (Value Unit))) =
        .ok [.lookup "a", .reset, .reset, .lookup "b", .commit] ∧
      (compile ("a;" ++ "," ++ "\n#") : Except Failure (Pipeline Unit (Value Unit))) =
        .error (.invalid { line := 2, kind := .unexpectedCharacter '#' .value }) := by
  have first : (compile "a;" : Except Failure (Pipeline Unit (Value Unit))) =
      .ok [.lookup "a", .reset, .replace "nothing" .nothing, .commit] :=
    @compile_of_read Unit "a;" (.last (.andThen (.term (.name "a")) (.last .empty))) rfl
  have second : (compile "b" : Except Failure (Pipeline Unit (Value Unit))) =
      .ok [.lookup "b", .commit] :=
    @compile_of_read Unit "b" (.last (.last (.term (.name "b")))) rfl
  have failing : (compile "\n#" : Except Failure (Pipeline Unit (Value Unit))) =
      .error (.invalid { line := 2, kind := .unexpectedCharacter '#' .value }) :=
    (@compile_of_offence Unit "\n#" ⟨.unexpectedCharacter '#' .value, ['#']⟩ ['\n'] rfl rfl).2
  obtain ⟨core, coreEq, joined, failed⟩ := compile_separated first
  have closingEq : (Ending.slot.after "a;".toList).closing =
      ([.replace "nothing" .nothing, .commit] : Pipeline Unit (Value Unit)) := rfl
  obtain rfl : core = [.lookup "a", .reset] := by
    rw [closingEq] at coreEq
    exact List.append_cancel_right coreEq.symm
  obtain ⟨error, errorEq, byComma, -⟩ := failed _ _ failing
  obtain rfl := Failure.invalid.inj errorEq
  exact ⟨first, (joined _ _ second).2, byComma⟩

end Focal
