import Focal.Proofs.Pipeline.Errors
import Focal.Proofs.Syntax.Finality

/-!
# Errors that are final

An error about a character that stands where it cannot is definite: however the source goes on, it
does not compile, with the same error on the same line (`compile_definite`).
-/

namespace Focal

open Syntax Text

/-- Definite errors are final: a source that does not compile because of a character that stands
where it cannot does not compile with any text behind it either, and the kind of the error, what it
says and its line stay the same. -/
theorem compile_definite {ι : Type} {source : String} {error : SyntaxError}
    (definite : error.kind.Definite)
    (failed : (compile source : Except Failure (Pipeline ι (Value ι))) =
      .error (.invalid error)) (suffix : String) :
    (compile (source ++ suffix) : Except Failure (Pipeline ι (Value ι))) =
      .error (.invalid error) := by
  obtain ⟨offence, front, read, sourceEq, rfl⟩ := compile_eq_error_iff.mp failed
  have readOn := Reading.program_of_definite definite read suffix.toList
  have sourceOnEq : (source ++ suffix).toList = front ++ (offence.rest ++ suffix.toList) := by
    rw [String.toList_append, sourceEq, List.append_assoc]
  rw [← String.toList_append] at readOn
  exact compile_eq_error_iff.mpr ⟨_, front, readOn, sourceOnEq, rfl⟩

/-- A missing name in parentheses that stays wrong in front of a name. -/
theorem compile_definite_missingName :
    SyntaxErrorKind.Definite (.missingName (some '#')) ∧
      (compile "(a.\n#)" : Except Failure (Pipeline Unit (Value Unit))) =
        .error (.invalid { line := 2, kind := .missingName (some '#') }) ∧
      (compile ("(a.\n#)" ++ ".b") : Except Failure (Pipeline Unit (Value Unit))) =
        .error (.invalid { line := 2, kind := .missingName (some '#') }) := by
  have definite : SyntaxErrorKind.Definite (.missingName (some '#')) := .missingName '#'
  have failed : (compile "(a.\n#)" : Except Failure (Pipeline Unit (Value Unit))) =
      .error (.invalid { line := 2, kind := .missingName (some '#') }) :=
    (@compile_of_offence Unit "(a.\n#)" ⟨.missingName (some '#'), ['#', ')']⟩
      "(a.\n".toList rfl rfl).2
  exact ⟨definite, failed, compile_definite definite failed ".b"⟩

end Focal
