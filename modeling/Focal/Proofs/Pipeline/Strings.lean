import Focal.Proofs.Pipeline.Bodies
import Focal.Proofs.Pipeline.Errors
import Focal.Proofs.Syntax.Strings

/-!
# Sources with open strings

The scan for the end of a body and the reader of a program agree on where a string ends, and on
whether it does.  So a text that is cut out between delimiters holds no open string, and if a source
does not compile because a string is open, then the quote of the string is in no body.  A string
that is open in a body leaves the body without an end, and the error is about the opening delimiter
of the outermost body around the string, on the line of this delimiter (`string_scans_agree`).
-/

namespace Focal

open Source Syntax
open Text (terminators)

variable {ι : Type}

/-- A source does not compile because of an open string exactly if it is read up to the quote of
one. -/
theorem compile_unclosedString_iff {source : String} {line : Nat} :
    (compile source : Except Failure (Pipeline ι (Value ι))) =
        .error (.invalid { line, kind := .unclosedString }) ↔
      ∃ front text, OpenString source.toList front text ∧ line = 1 + terminators front := by
  constructor
  · intro failed
    cases read : Reading.program Draft.empty source.toList with
    | ok program =>
        rw [compile_of_read read] at failed
        cases failed
    | error offence =>
        obtain ⟨kind, rest⟩ := offence
        obtain ⟨site, behindEq⟩ := exists_site_of_read read
        have failedHere := (@compile_of_offence ι _ _ _ read (behindEq ▸ site.source_eq)).2
        cases failed.symm.trans failedHere
        obtain ⟨text, _, isOpen⟩ := site.openString
        exact ⟨site.front, text, isOpen, rfl⟩
  · rintro ⟨front, text, isOpen, rfl⟩
    exact (compile_of_offence isOpen.read isOpen.source_eq).2

/-- A text that is cut out between delimiters holds no open string. -/
theorem outside_of_spans {delimiter : Delimiter} {body : String} (spans : delimiter.Spans body) :
    Quoting.outside.after body.toList = .outside :=
  (firstMatch_of_cutSpan (Delimiter.spans_iff.mp spans)).closable.1

theorem not_openString_of_spans {delimiter : Delimiter} {body : String} {front text : List Char}
    (spans : delimiter.Spans body) : ¬ OpenString body.toList front text := by
  intro isOpen
  have inside := Quoting.after_quote_ne_outside (isOpen.closable delimiter).1 isOpen.unclosed
  rw [← isOpen.source_eq] at inside
  exact inside (outside_of_spans spans)

/-- A string that is open in a body leaves this body without an end, and the body is in no other
one. -/
theorem compile_of_openBody {source : String} {earlier body later front inner text : List Char}
    {delimiter : Delimiter} (within : Within source.toList earlier body later)
    (isOpen : OpenBody body front delimiter inner text) :
    (compile source : Except Failure (Pipeline ι (Value ι))) =
      .error (.invalid
        { line := 1 + terminators (earlier ++ front)
          kind := .unclosedDelimiter delimiter.openerChar }) := by
  obtain ⟨rfl, rfl, -⟩ := isOpen.eq_of_within within
  exact (compile_of_offence isOpen.read isOpen.source_eq).2

/-- From every opening quote, the scan for the end of a body and the reader of a string come to the
same place, or both find the string open.  So a body that is cut out does not fail to compile
because of an open string; a source does only if the quote stands outside all bodies; and a string
that is open in a body is reported as the delimiter that opens the body. -/
theorem string_scans_agree (ι : Type) :
    (∀ (first last : Nat) (before text : List Char),
      first + terminators (before ++ '"' :: text) ≤ last →
        ScansAlike (Cursor.between first last before ('"' :: text))) ∧
    (∀ (delimiter : Delimiter) (body : String) (line : Nat), delimiter.Spans body →
      (compile body : Except Failure (Pipeline ι (Value ι))) ≠
        .error (.invalid { line, kind := .unclosedString })) ∧
    (∀ (source : String) (line : Nat),
      (compile source : Except Failure (Pipeline ι (Value ι))) =
          .error (.invalid { line, kind := .unclosedString }) ↔
        ∃ front text, OpenString source.toList front text ∧
          (∀ delimiter, Closable delimiter .outside 0 front) ∧ line = 1 + terminators front) ∧
    ∀ (source : String) (earlier body later front inner text : List Char) (delimiter : Delimiter),
      Within source.toList earlier body later → OpenBody body front delimiter inner text →
        (compile source : Except Failure (Pipeline ι (Value ι))) =
          .error (.invalid
            { line := 1 + terminators (earlier ++ front)
              kind := .unclosedDelimiter delimiter.openerChar }) := by
  refine ⟨?_, ?_, ?_, ?_⟩
  · intro first last before text room
    exact scansAlike_between first last room
  · intro delimiter body line spans failed
    obtain ⟨front, text, isOpen, -⟩ := compile_unclosedString_iff.mp failed
    exact not_openString_of_spans spans isOpen
  · intro source line
    rw [compile_unclosedString_iff]
    constructor
    · rintro ⟨front, text, isOpen, lineEq⟩
      exact ⟨front, text, isOpen, isOpen.closable, lineEq⟩
    · rintro ⟨front, text, isOpen, -, lineEq⟩
      exact ⟨front, text, isOpen, lineEq⟩
  · intro source earlier body later front inner text delimiter within isOpen
    exact compile_of_openBody within isOpen

/-- A closed string, a quote behind a comma, and one behind a parenthesis. -/
theorem string_scans_agree_open :
    1 + terminators "\")\"".toList ≤ 1 ∧
      ScansAlike (Cursor.between 1 1 [] "\")\"".toList) ∧
      Delimiter.paren.Spans "\")\"" ∧
      (compile "\")\"" : Except Failure (Pipeline Unit (Value Unit))) ≠
        .error (.invalid { line := 1, kind := .unclosedString }) ∧
      OpenString ",\"".toList [','] [] ∧
      (compile ",\"" : Except Failure (Pipeline Unit (Value Unit))) =
        .error (.invalid { line := 1, kind := .unclosedString }) ∧
      OpenBody "(\"".toList [] .paren [] [] ∧
      (compile "(\"" : Except Failure (Pipeline Unit (Value Unit))) =
        .error (.invalid { line := 1, kind := .unclosedDelimiter '(' }) := by
  obtain ⟨alike, cutOut, outermost, inBody⟩ := string_scans_agree Unit
  have room : 1 + terminators "\")\"".toList ≤ 1 := by decide
  have spans : Delimiter.paren.Spans "\")\"" := Delimiter.spans_iff.mpr rfl
  have openString : OpenString ",\"".toList [','] [] :=
    ⟨rfl, rfl, _, (Reached.start _).comma, rfl⟩
  have openBody : OpenBody "(\"".toList [] .paren [] [] :=
    ⟨rfl, by simp [Unmatched], rfl, rfl, _, Reached.start _, fun _ => rfl⟩
  exact ⟨room, alike 1 1 [] [')', '"'] room, spans, cutOut .paren _ 1 spans, openString,
    (outermost _ 1).mpr ⟨_, _, openString, openString.closable, rfl⟩, openBody,
    inBody _ [] _ [] [] [] [] .paren (.here _) openBody⟩

end Focal
