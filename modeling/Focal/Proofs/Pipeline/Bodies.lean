import Focal.Proofs.Pipeline.Compile
import Focal.Proofs.Syntax.Bodies

/-!
# Bodies of a source on their own

A text that the scanner cuts out between two delimiters compiles there as it does alone, with one
exception (`compiles_between_delimiters`): white space alone is a body without values whatever
characters it is made of, while a source of white space compiles only if it is made of blanks and
line terminators.  A no-break space in parentheses compiles, and by itself it does not
(`compiles_noBreakSpace`).
-/

namespace Focal

open Source Syntax

/-- A source compiles. -/
def Compiles (ι : Type) (source : String) : Prop :=
  ∃ pipeline : Pipeline ι (Value ι), compile source = .ok pipeline

theorem compiles_iff_read {ι : Type} {source : String} :
    Compiles ι source ↔ ∃ tree, Reading.program Draft.empty source.toList = .ok tree := by
  constructor
  · rintro ⟨pipeline, compiled⟩
    obtain ⟨tree, derives, _⟩ := compile_eq_ok_iff.mp compiled
    exact ⟨tree, derives.read⟩
  · rintro ⟨tree, read⟩
    exact ⟨tree.steps, compile_of_read read⟩

namespace Syntax

/-- A text between two delimiters. -/
def Delimiter.enclose (delimiter : Delimiter) (body : String) : String :=
  delimiter.openerChar.toString ++ body ++ delimiter.closerChar.toString

/-- The span at the start of a text between two delimiters holds exactly this text. -/
def Delimiter.Spans (delimiter : Delimiter) (body : String) : Prop :=
  let source := delimiter.enclose body
  ∃ span after, (Cursor.atLine source 1 (Cursor.lastLineFrom 1 source)).skipSpan delimiter.opener
      delimiter.closer = .ok (some span, after) ∧ after.slice span.start span.stop = .ok body

theorem Delimiter.toList_enclose (delimiter : Delimiter) (body : String) :
    (delimiter.enclose body).toList =
      delimiter.openerChar :: body.toList ++ [delimiter.closerChar] := by
  simp [enclose, String.toList_append]

/-- What the cursor cuts out is what the scan of the characters finds. -/
theorem Delimiter.spans_iff {delimiter : Delimiter} {body : String} :
    delimiter.Spans body ↔ Reading.SpansTo delimiter body.toList := by
  have listEq := delimiter.toList_enclose body
  have room := source_room (delimiter.enclose body)
  rw [listEq, List.cons_append] at room
  rw [Spans, Cursor.atLine_eq_between, listEq, List.cons_append]
  refine (exists_slice_iff 1 _ room).trans ?_
  constructor
  · rintro ⟨rest, cut⟩
    obtain rfl : [] = rest := by
      simpa using eq_append_of_cutSpan cut
    exact cut
  · intro cut
    exact ⟨[], cut⟩

theorem isBody_iff_compiles {ι : Type} {body : String} :
    Reading.IsBody body.toList ↔ isBlank body = true ∨ Compiles ι body := by
  rw [Reading.IsBody, compiles_iff_read, ← isBlank_ofList, String.ofList_toList]

end Syntax

/-- A body compiles between delimiters if and only if it is white space or compiles on its own; and
white space compiles on its own if and only if it consists of blanks and line terminators. -/
theorem compiles_between_delimiters (ι : Type) (body : String) :
    (Delimiter.paren.Spans body →
      (Compiles ι ("(" ++ body ++ ")") ↔ isBlank body = true ∨ Compiles ι body) ∧
      (Compiles ι ("f(" ++ body ++ ")") ↔ isBlank body = true ∨ Compiles ι body)) ∧
    (Delimiter.brace.Spans body →
      (Compiles ι ("\x7b" ++ body ++ "\x7d") ↔ isBlank body = true ∨ Compiles ι body)) ∧
    (isBlank body = true → (Compiles ι body ↔ Trivia body.toList)) := by
  simp only [Delimiter.spans_iff, ← isBody_iff_compiles]
  refine ⟨fun spans => ⟨?_, ?_⟩, fun spans => ?_, fun blank => ?_⟩
  · simpa [compiles_iff_read] using Reading.program_group spans
  · simpa [compiles_iff_read] using Reading.program_call spans
  · simpa [compiles_iff_read] using Reading.program_block spans
  · rw [compiles_iff_read]
    rw [← String.ofList_toList (s := body), isBlank_ofList] at blank
    exact Reading.trivia_iff_of_isWhite blank

/-- A body that holds a closing parenthesis in a string, and one of white space. -/
theorem compiles_between_delimiters_string :
    Delimiter.paren.Spans "a(\")\")" ∧ Delimiter.brace.Spans "a(\")\")" ∧ isBlank "\t" = true ∧
      (Compiles Unit "(a(\")\"))" ↔ isBlank "a(\")\")" = true ∨ Compiles Unit "a(\")\")") ∧
      (Compiles Unit "\x7ba(\")\")\x7d" ↔
        isBlank "a(\")\")" = true ∨ Compiles Unit "a(\")\")") ∧
      (Compiles Unit "\t" ↔ Trivia "\t".toList) := by
  have inParens : Delimiter.paren.Spans "a(\")\")" := Delimiter.spans_iff.mpr rfl
  have inBraces : Delimiter.brace.Spans "a(\")\")" := Delimiter.spans_iff.mpr rfl
  have blank : isBlank "\t" = true := by decide
  have quoted := compiles_between_delimiters Unit "a(\")\")"
  exact ⟨inParens, inBraces, blank, (quoted.1 inParens).1, quoted.2.1 inBraces,
    (compiles_between_delimiters Unit "\t").2.2 blank⟩

/-- A no-break space compiles as the body of a group, but not on its own. -/
theorem compiles_noBreakSpace :
    Delimiter.paren.Spans "\u00a0" ∧ Compiles Unit "(\u00a0)" ∧ ¬ Compiles Unit "\u00a0" := by
  refine ⟨Delimiter.spans_iff.mpr rfl, compiles_iff_read.mpr ⟨_, rfl⟩, ?_⟩
  rw [compiles_iff_read]
  rintro ⟨tree, read⟩
  have trivia := Reading.trivia_of_program (by decide) read
  exact absurd (trivia '\u00a0' (by simp)) (by decide)

end Focal
