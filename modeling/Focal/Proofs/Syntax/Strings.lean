import Focal.Proofs.Syntax.Offences
import Focal.Proofs.Syntax.Tokens

/-!
# Strings in bodies

A string is read in two places: the reader of a program reads the literals between other tokens, and
the scan for the end of a body steps over those in the body.  Both come to the same end
(`scansAlike_between`), so the strings of a body that has been cut out are closed in it
(`Within.closed`).

An open string can therefore be found in two ways.  The reader comes to its quote, which then is in
no body at all (`Site.openString`), or it stands in a body that has no end because of it
(`OpenBody.read`).
-/

namespace Focal

namespace Syntax

open Source Source.Cursor
open Text (terminators Whole)

/-! ## The two scans -/

/-- From an opening quote, the scan over a string and the reader of one both come to the same place
behind the closing quote, or both find that there is none. -/
inductive ScansAlike (cursor : Cursor) : Prop
  | closed {value : String} {after : Cursor} (skipped : cursor.skipQuoted = .ok (true, after))
      (read : readString cursor = .ok (value, after)) : ScansAlike cursor
  | unclosed {after : Cursor} (skipped : cursor.skipQuoted = .ok (false, after))
      (read : readString cursor =
        .error (.invalid { line := cursor.line, kind := .unclosedString })) : ScansAlike cursor

theorem scansAlike_between (first last : Nat) {before text : List Char}
    (room : first + terminators (before ++ '"' :: text) ≤ last) :
    ScansAlike (between first last before ('"' :: text)) := by
  have skipped := skipQuoted_between first last room
  have follows := readString_follows first last room
  rw [Reading.string] at follows
  cases closed : closeQuote false text with
  | none =>
      rw [closed] at skipped follows
      obtain ⟨read, textEq, -, failed⟩ := follows
      obtain rfl : [] = read := List.append_cancel_right textEq
      rw [List.append_nil] at failed
      exact .unclosed skipped failed
  | some cut =>
      rcases cut with ⟨content, rest⟩
      rw [closed] at skipped follows
      obtain ⟨read, textEq, -, succeeded⟩ := follows
      rw [eq_append_of_closeQuote closed, ← List.cons_append, List.append_cons] at textEq
      obtain rfl := List.append_cancel_right textEq
      rw [← List.append_assoc] at succeeded
      exact .closed skipped succeeded

/-! ## Bodies that have been cut out -/

/-- The strings of a body that has been cut out of another text are closed in it. -/
theorem Within.closed {source earlier body later : List Char}
    (within : Within source earlier body later) :
    (earlier = [] ∧ body = source ∧ later = []) ∨ Quoting.outside.after body = .outside := by
  induction within with
  | here => exact .inl ⟨rfl, rfl, rfl⟩
  | deeper _ _ _ matched _ ih =>
      obtain ⟨-, rfl, -⟩ | outside := ih
      · exact .inr matched.closable.1
      · exact .inr outside

/-- A body with an open string is not inside another text. -/
theorem Within.eq_of_open {source earlier body later front text : List Char}
    (within : Within source earlier body later) (bodyEq : body = front ++ '"' :: text)
    (outside : Quoting.outside.after front = .outside) (unclosed : closeQuote false text = none) :
    earlier = [] ∧ body = source ∧ later = [] := by
  refine within.closed.resolve_right ?_
  rw [bodyEq]
  exact Quoting.after_quote_ne_outside outside unclosed

/-- In front of what has been reached every string and every span is closed. -/
theorem Reached.closable {source front rest : List Char} {draft : Draft}
    (reached : Reached source draft rest) (sourceEq : source = front ++ rest)
    (delimiter : Delimiter) : Closable delimiter .outside 0 front := by
  obtain ⟨read, readEq, neutral⟩ := reached.neutral
  obtain rfl := List.append_cancel_right (sourceEq.symm.trans readEq)
  exact (firstMatch_of_cutSpan (neutral.cutSpan delimiter [])).closable

/-! ## Reading on from what has been reached -/

theorem SegmentStart.read {source text : List Char} {slots : List Slot} {segments : List Segment}
    (start : SegmentStart source slots segments text) :
    Reading.program Draft.empty source = Reading.program { slots, segments, term := none } text := by
  induction start with
  | first => rfl
  | @semicolon slots segments segment text rest _ derives ih =>
      obtain ⟨begun, rfl, read⟩ := derives.reads rfl { slots, segments, term := none } rfl
      rw [ih, read, Reading.program_semicolon]
      rfl
  | @comma slots segments segment text rest _ derives ih =>
      obtain ⟨begun, rfl, read⟩ := derives.reads rfl { slots, segments, term := none } rfl
      rw [ih, read, Reading.program_comma]
      rfl

/-- A text is read as the rest of it is, with the draft of what stands in front of the rest. -/
theorem Reached.read {source rest : List Char} {draft : Draft} (reached : Reached source draft rest)
    (ends : draft.term.isSome = true → Reading.endsName rest = true) :
    Reading.program Draft.empty source = Reading.program draft rest := by
  obtain ⟨slots, segments, begun⟩ := draft
  obtain ⟨text, start, begun⟩ := reached
  rw [start.read]
  cases begun with
  | vacant leading => exact Reading.program_trivia leading _
  | @term tree before text behind rest leading derives trailing =>
      have follows : Reading.endsName (behind ++ rest) = true := by
        cases behind with
        | nil => exact ends rfl
        | cons character behind => simp [Reading.endsName, trailing character List.mem_cons_self]
      rw [Reading.program_trivia leading, derives.reads follows _ rfl,
        Reading.program_trivia trailing]

namespace Reading

theorem program_of_term_error {draft : Draft} {initial : Char} {rest : List Char}
    {offence : Offence} (token : startsToken initial = true)
    (read : term (program Draft.empty) draft.term initial rest = .error offence) :
    program draft (initial :: rest) = .error offence := by
  simp only [startsToken, Bool.and_eq_true, Bool.not_eq_true', bne_iff_ne] at token
  obtain ⟨⟨notTrivia, notComma⟩, notSemicolon⟩ := token
  have kept : (initial :: rest).dropWhile isTrivia = initial :: rest := by simp [notTrivia]
  rw [program_eq, kept]
  simp only [notComma, notSemicolon, if_false, read]

theorem program_unclosedString {draft : Draft} {text : List Char} (vacant : draft.term = none)
    (unclosed : closeQuote false text = none) :
    program draft ('"' :: text) = .error ⟨.unclosedString, '"' :: text⟩ := by
  apply program_of_term_error (by decide)
  rw [vacant, term, primary, string, unclosed]
  rfl

theorem program_unclosedDelimiter {draft : Draft} {delimiter : Delimiter} {text : List Char}
    (opens : delimiter = .brace → draft.term = none)
    (noEnd : cutSpan delimiter .outside 0 text = none) :
    program draft (delimiter.openerChar :: text) =
      .error ⟨.unclosedDelimiter delimiter.openerChar, delimiter.openerChar :: text⟩ := by
  have failed : body (program Draft.empty) delimiter text =
      .error ⟨.unclosedDelimiter delimiter.openerChar, delimiter.openerChar :: text⟩ := by
    rw [body, noEnd]
    rfl
  cases delimiter with
  | paren =>
      apply program_of_term_error (by decide)
      cases draft.term with
      | none => exact mapFirst_eq_error_iff.mpr failed
      | some target => exact mapFirst_eq_error_iff.mpr failed
  | brace =>
      apply program_of_term_error (by decide)
      rw [opens rfl]
      exact mapFirst_eq_error_iff.mpr failed

end Reading

/-! ## Where an open string is found -/

/-- A text is read up to the quote of a string that is not closed. -/
structure OpenString (source front text : List Char) : Prop where
  source_eq : source = front ++ '"' :: text
  unclosed : closeQuote false text = none
  reached : ∃ draft, Reached source draft ('"' :: text) ∧ draft.term = none

theorem OpenString.read {source front text : List Char} (isOpen : OpenString source front text) :
    Reading.program Draft.empty source = .error ⟨.unclosedString, '"' :: text⟩ := by
  obtain ⟨draft, reached, vacant⟩ := isOpen.reached
  rw [reached.read (by simp [vacant]), Reading.program_unclosedString vacant isOpen.unclosed]

/-- The quote of a string that is not closed is in no span. -/
theorem OpenString.closable {source front text : List Char} (isOpen : OpenString source front text)
    (delimiter : Delimiter) : Closable delimiter .outside 0 front := by
  obtain ⟨draft, reached, -⟩ := isOpen.reached
  exact reached.closable isOpen.source_eq delimiter

theorem Stops.unclosedString_cases {begun : Option Term} {token rest : List Char}
    (stops : Stops begun token .unclosedString rest) :
    ∃ text, token = '"' :: text ∧ rest = '"' :: text ∧ begun = none ∧
      closeQuote false text = none := by
  cases stops with
  | @unclosedString text vacant unclosed =>
      refine ⟨text, rfl, rfl, vacant, ?_⟩
      by_contra found
      obtain ⟨⟨content, behind⟩, closed⟩ := Option.ne_none_iff_exists'.mp found
      exact unclosed content _ behind (eq_append_of_closeQuote closed) (spells_of_closeQuote closed)

/-- If a text cannot be read at the quote of a string, then this quote is not in a body. -/
theorem Site.openString {source : List Char} (site : Site source .unclosedString) :
    ∃ text, site.behind = '"' :: text ∧ OpenString source site.front text := by
  obtain ⟨earlier, body, later, draft, token, before, rest, within, reached, stops, bodyEq⟩ := site
  obtain ⟨text, rfl, rfl, vacant, unclosed⟩ := stops.unclosedString_cases
  have outside := (reached.closable bodyEq .paren).1
  obtain ⟨rfl, rfl, rfl⟩ := within.eq_of_open bodyEq outside unclosed
  exact ⟨text, List.append_nil _, bodyEq, unclosed, draft, reached, vacant⟩

/-- A text is read up to a delimiter that opens a body, and in this body a string is not closed. -/
structure OpenBody (source front : List Char) (delimiter : Delimiter) (inner text : List Char) :
    Prop where
  source_eq : source = front ++ delimiter.openerChar :: (inner ++ '"' :: text)
  unmatched : Unmatched delimiter .outside 0 inner
  outside : Quoting.outside.after inner = .outside
  unclosed : closeQuote false text = none
  reached : ∃ draft, Reached source draft (delimiter.openerChar :: (inner ++ '"' :: text)) ∧
    (delimiter = .brace → draft.term = none)

theorem OpenBody.read {source front inner text : List Char} {delimiter : Delimiter}
    (isOpen : OpenBody source front delimiter inner text) :
    Reading.program Draft.empty source = .error ⟨.unclosedDelimiter delimiter.openerChar,
      delimiter.openerChar :: (inner ++ '"' :: text)⟩ := by
  obtain ⟨draft, reached, opens⟩ := isOpen.reached
  have ends : draft.term.isSome = true →
      Reading.endsName (delimiter.openerChar :: (inner ++ '"' :: text)) = true := by
    intro isSome
    cases delimiter with
    | paren => rfl
    | brace => simp [opens rfl] at isSome
  rw [reached.read ends]
  exact Reading.program_unclosedDelimiter opens
    (cutSpan_of_open isOpen.unmatched isOpen.outside isOpen.unclosed)

/-- A body in which there is another one with an open string is not itself in a body. -/
theorem OpenBody.eq_of_within {source earlier body later front inner text : List Char}
    {delimiter : Delimiter} (isOpen : OpenBody body front delimiter inner text)
    (within : Within source earlier body later) : earlier = [] ∧ body = source ∧ later = [] := by
  obtain ⟨draft, reached, -⟩ := isOpen.reached
  have outside := (reached.closable isOpen.source_eq .paren).1
  have bodyEq : body = (front ++ delimiter.openerChar :: inner) ++ '"' :: text := by
    rw [isOpen.source_eq, List.append_assoc, List.cons_append]
  refine within.eq_of_open bodyEq ?_ isOpen.unclosed
  rw [Quoting.after_append, outside, Quoting.after_cons, (next_delimiter delimiter).1]
  exact isOpen.outside

end Syntax

end Focal
