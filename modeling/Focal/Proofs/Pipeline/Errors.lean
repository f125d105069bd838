import Focal.Proofs.Pipeline.Compile
import Focal.Proofs.Syntax.Offences

/-!
# Where compilation fails

A source that does not compile has a place at which it cannot be read, and the error is reported on
the line of that place (`compile_error_site`): one more than the number of terminators in front of
it in the whole source, however deep it is nested in bodies.  The lines into which a source is split
to show an error have the line of the place under this number.
-/

namespace Focal

open Syntax Text

variable {ι : Type}

/-- A source in which an offence is read does not compile, and the error is on the line of the
offence. -/
theorem compile_of_offence {source : String} {offence : Offence} {front : List Char}
    (read : Reading.program Draft.empty source.toList = .error offence)
    (sourceEq : source.toList = front ++ offence.rest) :
    Whole front offence.rest ∧
      (compile source : Except Failure (Pipeline ι (Value ι))) =
        .error (.invalid { line := 1 + terminators front, kind := offence.kind }) := by
  have settled := ofSource_settles source
  rw [read] at settled
  rcases settled with ⟨before, beforeEq, whole, scanned⟩
  obtain rfl := List.append_cancel_right (beforeEq.symm.trans sourceEq)
  refine ⟨whole, ?_⟩
  rw [compile, scanned]
  rfl

theorem compile_eq_error_iff {source : String} {error : SyntaxError} :
    (compile source : Except Failure (Pipeline ι (Value ι))) = .error (.invalid error) ↔
      ∃ offence front, Reading.program Draft.empty source.toList = .error offence ∧
        source.toList = front ++ offence.rest ∧
        error = { line := 1 + terminators front, kind := offence.kind } := by
  constructor
  · intro failed
    cases read : Reading.program Draft.empty source.toList with
    | ok program =>
        rw [compile_of_read read] at failed
        cases failed
    | error offence =>
        have settled := ofSource_settles source
        rw [read] at settled
        obtain ⟨front, sourceEq, -, -⟩ := settled
        have failedHere := (@compile_of_offence ι _ _ _ read sourceEq).2
        exact ⟨offence, front, rfl, sourceEq,
          Failure.invalid.inj (Except.error.inj (failed.symm.trans failedHere))⟩
  · rintro ⟨offence, front, read, sourceEq, rfl⟩
    exact (compile_of_offence read sourceEq).2

/-- A source that does not compile has a place at which it cannot be read, and the line of the error
is the line on which this place lies in the whole source. -/
theorem compile_error_site {source : String} {failure : Failure}
    (failed : (compile source : Except Failure (Pipeline ι (Value ι))) = .error failure) :
    ∃ error, failure = .invalid error ∧ ∃ site : Site source.toList error.kind,
      source.toList = site.front ++ site.behind ∧
      Source.Quoting.outside.after site.front = .outside ∧
      ((site.earlier = [] ∧ site.later = []) ∨ ∃ around delimiter others,
        site.earlier = around ++ [Delimiter.openerChar delimiter] ∧
          site.later = delimiter.closerChar :: others) ∧
      error.line = 1 + terminators site.front ∧
      (lines source.toList)[error.line - 1]? = some (lineAround site.front site.behind) := by
  cases read : Reading.program Draft.empty source.toList with
  | ok program =>
      rw [compile_of_read read] at failed
      cases failed
  | error offence =>
      obtain ⟨site, behindEq⟩ := exists_site_of_read read
      have sourceEq := site.source_eq
      obtain ⟨whole, failedHere⟩ := @compile_of_offence ι _ _ _ read (behindEq ▸ sourceEq)
      rw [failedHere] at failed
      refine ⟨_, (Except.error.inj failed).symm, site, sourceEq, site.outside,
        site.within.later_eq, rfl, ?_⟩
      rw [← behindEq] at whole
      simpa [← sourceEq] using getElem?_lines whole

/-- A character behind a terminator in a group. -/
theorem compile_error_site_nested :
    (compile "(1,\r\n#)" : Except Failure (Pipeline Unit (Value Unit))) =
        .error (.invalid { line := 2, kind := .unexpectedCharacter '#' .value }) ∧
      ∃ error, Failure.invalid { line := 2, kind := .unexpectedCharacter '#' .value } =
          .invalid error ∧
        ∃ site : Site "(1,\r\n#)".toList error.kind,
          "(1,\r\n#)".toList = site.front ++ site.behind ∧
          Source.Quoting.outside.after site.front = .outside ∧
          ((site.earlier = [] ∧ site.later = []) ∨ ∃ around delimiter others,
            site.earlier = around ++ [Delimiter.openerChar delimiter] ∧
              site.later = delimiter.closerChar :: others) ∧
          error.line = 1 + terminators site.front ∧
          (lines "(1,\r\n#)".toList)[error.line - 1]? =
            some (lineAround site.front site.behind) := by
  have failed : (compile "(1,\r\n#)" : Except Failure (Pipeline Unit (Value Unit))) =
      .error (.invalid { line := 2, kind := .unexpectedCharacter '#' .value }) :=
    (@compile_of_offence Unit "(1,\r\n#)" ⟨.unexpectedCharacter '#' .value, ['#', ')']⟩
      "(1,\r\n".toList rfl rfl).2
  exact ⟨failed, compile_error_site failed⟩

end Focal
