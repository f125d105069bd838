import Focal.CommandLine.Script
import Focal.Proofs.Pipeline.Errors
import Focal.Proofs.Syntax.DeadEnds

/-!
# The note about a second point

When no name follows a point, the diagnostic says what was found instead, and for a digit it adds a
note that a number has at most one point.  The error keeps nothing of the term in front of the
point, so the digit alone decides (`check_missingName`).  The note is therefore given where there is
no number at all, as in `a.5` (`pointNote_behind_name`).
-/

namespace Focal

open Syntax Diagnostic Text

/-- A number literal. -/
def Syntax.Term.isNumber : Term → Bool
  | .int _ | .float _ => true
  | _ => false

namespace Script

variable {source : String} {diagnostic : Diagnostic}

/-- A check fails with the diagnostic of the place at which the source cannot be read. -/
theorem exists_site_of_check (failed : check source = .error diagnostic) :
    ∃ kind, ∃ site : Site source.toList kind,
      diagnostic = ofSyntaxError { line := 1 + terminators site.front, kind } := by
  rw [check, pipeline] at failed
  cases read : Reading.program Draft.empty source.toList with
  | ok program =>
      rw [compile_of_read read] at failed
      cases failed
  | error offence =>
      obtain ⟨site, behindEq⟩ := exists_site_of_read read
      have invalid :=
        (@compile_of_offence Prelude.Function _ _ _ read (behindEq ▸ site.source_eq)).2
      rw [invalid] at failed
      exact ⟨offence.kind, site, (Except.error.inj failed).symm⟩

/-- The diagnostic of a missing name. -/
def missingNameAt (line : Nat) (found : Option Char) : Diagnostic :=
  { code := .missingName
    message := (SyntaxErrorKind.missingName found).message
    line := some line
    label := some "member name expected"
    notes := if found.any Char.isDigit then [pointNote] else []
    suggestions := [] }

theorem ofSyntaxError_missingName (line : Nat) (found : Option Char) :
    ofSyntaxError { line, kind := .missingName found } = missingNameAt line found := by
  cases found with
  | none => rfl
  | some character =>
      by_cases digit : character.isDigit = true
      · rw [missingNameAt, Option.any_some, if_pos digit]
        exact if_pos digit
      · rw [missingNameAt, Option.any_some, if_neg digit]
        exact if_neg digit

theorem ofSyntaxError_code (line : Nat) (kind : SyntaxErrorKind) :
    (ofSyntaxError { line, kind }).code = kind.code := by
  cases kind with
  | missingName found => rw [ofSyntaxError_missingName]; rfl
  | _ => rfl

/-- A source in which a name is found to be missing. -/
theorem check_of_missingName {found : Option Char} {rest : List Char} (front : List Char)
    (read : Reading.program Draft.empty source.toList = .error ⟨.missingName found, rest⟩)
    (sourceEq : source.toList = front ++ rest) :
    check source = .error (missingNameAt (1 + terminators front) found) := by
  have invalid := (@compile_of_offence Prelude.Function _ _ _ read sourceEq).2
  rw [check, pipeline, invalid, ← ofSyntaxError_missingName]
  rfl

/-- Where a name is missing, the point there is the only such point of the source, and it is applied
to the last term of the program in front of it.  Whatever this term is, the note about a second
point is given if and only if a digit was found instead of a name. -/
theorem check_missingName (failed : check source = .error diagnostic)
    (missing : diagnostic.code = .missingName) :
    ∃ found target, ∃ site : Site source.toList (.missingName found),
      (∃ front trivia program, site.before = front ++ '.' :: trivia ∧ Trivia trivia ∧
        Derives (.program program) front [] ∧ program.lastSlot.lastSegment = .term target) ∧
      (∀ next (other : Site source.toList (.missingName next)),
        next = found ∧ other.front = site.front ∧ other.draft.term = some target) ∧
      diagnostic.line = some (1 + terminators site.front) ∧
      (pointNote ∈ diagnostic.notes ↔ ∃ digit, found = some digit ∧ digit.isDigit = true) := by
  obtain ⟨kind, site, rfl⟩ := exists_site_of_check failed
  rw [ofSyntaxError_code] at missing
  obtain ⟨found, rfl⟩ : ∃ found, kind = .missingName found := by
    cases kind with
    | missingName found => exact ⟨found, rfl⟩
    | _ => cases missing
  obtain ⟨front, trivia, target, program, beforeEq, around, derives, lastEq, termEq⟩ :=
    site.exists_program
  refine ⟨found, target, site, ⟨front, trivia, program, beforeEq, around, derives, lastEq⟩,
    fun next other => ?_, ?_, ?_⟩
  · obtain ⟨rfl, frontEq, otherEq⟩ := other.missingName_unique site
    exact ⟨rfl, frontEq, otherEq.trans termEq⟩
  · rw [ofSyntaxError_missingName]
    rfl
  · rw [ofSyntaxError_missingName, missingNameAt]
    cases found <;> simp

/-- A digit behind the point of a call, in a group. -/
theorem check_missingName_call :
    check "(\nf(x). 5)" = .error (missingNameAt 2 (some '5')) ∧
      (missingNameAt 2 (some '5')).code = .missingName ∧
      (missingNameAt 2 (some '5')).notes =
        ["a number literal has at most one `.`; the next `.` starts a member access"] ∧
      ∃ found target, ∃ site : Site "(\nf(x). 5)".toList (.missingName found),
        (∃ front trivia program, site.before = front ++ '.' :: trivia ∧ Trivia trivia ∧
          Derives (.program program) front [] ∧ program.lastSlot.lastSegment = .term target) ∧
        (∀ next (other : Site "(\nf(x). 5)".toList (.missingName next)),
          next = found ∧ other.front = site.front ∧ other.draft.term = some target) ∧
        (missingNameAt 2 (some '5')).line = some (1 + terminators site.front) ∧
        (pointNote ∈ (missingNameAt 2 (some '5')).notes ↔
          ∃ digit, found = some digit ∧ digit.isDigit = true) := by
  have failed : check "(\nf(x). 5)" = .error (missingNameAt 2 (some '5')) :=
    @check_of_missingName _ (some '5') ['5', ')'] "(\nf(x). ".toList rfl rfl
  exact ⟨failed, rfl, rfl, check_missingName failed rfl⟩

/-- The note about a second point is given for a digit behind the point of a name, where no number
is. -/
theorem pointNote_behind_name :
    ¬ ∀ diagnostic, check "a.5" = .error diagnostic → diagnostic.code = .missingName →
      (pointNote ∈ diagnostic.notes ↔
        ∃ digit target, ∃ site : Site "a.5".toList (.missingName (some digit)),
          digit.isDigit = true ∧ site.draft.term = some target ∧ target.isNumber = true) := by
  intro onlyNumbers
  have failed : check "a.5" = .error (missingNameAt 1 (some '5')) :=
    @check_of_missingName _ (some '5') ['5'] "a.".toList rfl rfl
  obtain ⟨digit, target, site, -, targetEq, isNumber⟩ :=
    (onlyNumbers _ failed rfl).mp (List.mem_singleton.mpr rfl)
  have named : Derives (.term (.name "a")) "a.5".toList ".5".toList :=
    @Derives.name ['a'] ['.', '5'] (.intro (by decide) (by simp)) (by decide)
  let draft : Draft := { slots := [], segments := [], term := some (.name "a") }
  have reached : Reached "a.5".toList draft ".5".toList :=
    ⟨_, .first, @Begun.term _ [] _ [] _ (by simp [Trivia]) named (by simp [Trivia])⟩
  let other : Site "a.5".toList (.missingName (some '5')) :=
    { earlier := [], body := "a.5".toList, later := [], draft, token := ".5".toList
      before := "a.".toList, rest := ['5']
      within := .here _
      reached
      stops := @Stops.notName _ [] [] '5' rfl (by simp [Trivia]) rfl rfl
      body_eq := rfl }
  obtain ⟨-, -, sameTerm⟩ := site.missingName_unique other
  obtain rfl := Option.some.inj (targetEq.symm.trans sameTerm)
  cases isNumber

end Script

end Focal
