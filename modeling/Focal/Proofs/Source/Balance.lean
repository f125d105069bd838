import Focal.Proofs.Source.Matching
import Focal.Proofs.Source.Padding
import Focal.Proofs.Source.Positions
import Focal.Proofs.Source.Quotes

/-!
# The end of a balanced span

From an opening delimiter anywhere in a source, `Cursor.skipSpan` finds a span exactly if a closing
delimiter of the kind ends it, which is one outside every string in front of which as many spans of
the kind were closed as opened.  The span ends at the first one, and the cursor is left behind it.
Otherwise the cursor is left at the end of the source (`skipSpan_exact`).
-/

namespace Focal.Source

open Focal.Syntax (Delimiter)
open Focal.Text (terminators Whole terminators_cons)
open Cursor

/-! ## Spans from any line -/

theorem Cursor.spanTurn_later (count : Nat) (cursor : Cursor) (opener closer : UInt8)
    (start depth : Nat) :
    spanTurn opener closer start depth (cursor.later count) =
      laterTurn count <$> spanTurn opener closer start depth cursor := by
  cases depth with
  | zero => simp [spanTurn, laterTurn, laterBehind, apply_ite (laterTurn count <$> ·)]
  | succ depth => simp [spanTurn, laterTurn, laterBehind, apply_ite (laterTurn count <$> ·)]

theorem Cursor.skipSpan_later (count : Nat) (cursor : Cursor) (opener closer : UInt8) :
    (cursor.later count).skipSpan opener closer =
      laterBehind count <$> cursor.skipSpan opener closer := by
  simp [skipSpan, apply_ite (laterBehind count <$> ·), loop_later count _ fun depth cursor =>
    spanTurn_later count cursor opener closer _ depth]

variable {source : String} {cursor : Cursor} {delimiter : Delimiter} {before text : List Char}

/-- Stepping over a span from any line. -/
theorem Cursor.Stands.skipSpan_eq
    (stands : cursor.Stands before (delimiter.openerChar :: text)) :
    cursor.skipSpan delimiter.opener delimiter.closer =
      .ok (match cutSpan delimiter .outside 0 text with
        | none => (none, cursor.behind (delimiter.openerChar :: text))
        | some (content, _) =>
            (some ⟨cursor.position + 1, cursor.position + 1 + (encode content).length⟩,
              cursor.behind (delimiter.openerChar :: content ++ [delimiter.closerChar]))) := by
  have small := utf8Size_of_ascii (delimiter_small delimiter).1
  have whole : ∀ text, Whole before (delimiter.openerChar :: text) := fun text =>
    Whole.of_head_inside before text (delimiter_inside delimiter).1
  have skipped := skipSpan_between _ _ (stands.later_room (whole text))
  rw [← stands.later_eq, skipSpan_later] at skipped
  apply eq_ok_of_map (laterBehind_injective (terminators before))
  rw [skipped]
  cases cut : cutSpan delimiter .outside 0 text with
  | none =>
      have behindEq := @Stands.later_behind _ before (delimiter.openerChar :: text) []
        (by simpa using stands) (whole text)
      simp [laterBehind, behindEq]
  | some found =>
      rcases found with ⟨content, rest⟩
      have behindEq := @Stands.later_behind _ before
        (delimiter.openerChar :: content ++ [delimiter.closerChar]) rest
        (by simpa [eq_append_of_cutSpan cut] using stands) (whole _)
      rw [List.cons_append] at behindEq
      simp [laterBehind, behindEq, stands.position_eq, small, Nat.add_assoc]

/-! ## The end of a span -/

/-- Where stepping over a span leads when it has an end. -/
theorem Cursor.Stands.skipSpan_of_firstMatch {inner rest : List Char}
    (stands : cursor.Stands before (delimiter.openerChar :: text))
    (found : FirstMatch delimiter .outside 0 text inner rest) :
    cursor.skipSpan delimiter.opener delimiter.closer =
      .ok (some ⟨cursor.position + 1, cursor.position + 1 + (encode inner).length⟩,
        { cursor with
          position := cursor.position + 1 + (encode inner).length + 1
          line := cursor.line + terminators inner }) := by
  rw [stands.skipSpan_eq, cutSpan_eq_some_iff.mpr found]
  simp only [behind_enclosed (delimiter_small delimiter) (delimiter_inside delimiter)]

/-- Where stepping over a span leads when it has none. -/
theorem Cursor.Stands.skipSpan_of_unmatched
    (stands : cursor.Stands before (delimiter.openerChar :: text))
    (sourceEq : source.toList = before ++ delimiter.openerChar :: text)
    (unmatched : Unmatched delimiter .outside 0 text) :
    cursor.skipSpan delimiter.opener delimiter.closer =
      .ok (none, { cursor with
        position := source.utf8ByteSize
        line := cursor.line + terminators text }) := by
  have sizeEq : source.utf8ByteSize =
      cursor.position + (encode (delimiter.openerChar :: text)).length := by
    rw [← length_encode_toList, sourceEq, stands.position_eq, encode_append, List.length_append]
  rw [stands.skipSpan_eq, cutSpan_eq_none_iff.mpr unmatched]
  simp only [behind, sizeEq, terminators_cons text (delimiter_inside delimiter).1]

/-- Stepping over a span leads to no position behind the end of a source. -/
theorem Cursor.Stands.position_le_of_skipSpan {span : Option Span} {after : Cursor}
    (stands : cursor.Stands before (delimiter.openerChar :: text))
    (sourceEq : source.toList = before ++ delimiter.openerChar :: text)
    (skipped : cursor.skipSpan delimiter.opener delimiter.closer = .ok (span, after)) :
    after.position ≤ source.utf8ByteSize := by
  cases cut : cutSpan delimiter .outside 0 text with
  | none =>
      have ended := stands.skipSpan_of_unmatched sourceEq (cutSpan_eq_none_iff.mp cut)
      obtain ⟨-, rfl⟩ := Prod.mk.inj (Except.ok.inj (ended.symm.trans skipped))
      exact Nat.le_refl _
  | some found =>
      have matched := firstMatch_of_cutSpan cut
      have ended := stands.skipSpan_of_firstMatch matched
      obtain ⟨-, rfl⟩ := Prod.mk.inj (Except.ok.inj (ended.symm.trans skipped))
      have small := delimiter_small delimiter
      rw [← length_encode_toList, sourceEq, matched.text_eq, stands.position_eq]
      simp only [encode_append, encode_cons, List.length_append, String.length_utf8EncodeChar,
        utf8Size_of_ascii small.1, utf8Size_of_ascii small.2]
      omega

/-- What stepping over a span comes to, from a cursor at its opening delimiter.  There is a span
exactly if a closing delimiter in the text behind the opening one ends it; it ends at the first of
these, and the cursor behind it has counted the line terminators inside.  If there is none, and so if
a string inside is not closed, the cursor goes to the end of the source.  In a source of fewer than
2³² bytes, 32 bits hold the length and the position of the cursor. -/
theorem skipSpan_exact (stands : cursor.StandsIn source)
    (opened : cursor.current = .ok delimiter.opener) :
    ∃ before text, source.toList = before ++ delimiter.openerChar :: text ∧
      cursor.position = (encode before).length ∧
      ((∃ span after,
          cursor.skipSpan delimiter.opener delimiter.closer = .ok (some span, after)) ↔
        ∃ inner rest, text = inner ++ delimiter.closerChar :: rest ∧
          Closable delimiter .outside 0 inner) ∧
      (∀ inner rest, FirstMatch delimiter .outside 0 text inner rest →
        cursor.skipSpan delimiter.opener delimiter.closer =
          .ok (some ⟨cursor.position + 1, cursor.position + 1 + (encode inner).length⟩,
            { cursor with
              position := cursor.position + 1 + (encode inner).length + 1
              line := cursor.line + terminators inner })) ∧
      (Unmatched delimiter .outside 0 text →
        cursor.skipSpan delimiter.opener delimiter.closer =
          .ok (none, { cursor with
            position := source.utf8ByteSize
            line := cursor.line + terminators text })) ∧
      (∀ front string, text = front ++ '"' :: string → Unmatched delimiter .outside 0 front →
        Quoting.outside.after front = .outside →
        (∀ content rest, ¬ EndsString string content rest) →
          Unmatched delimiter .outside 0 text) ∧
      (source.utf8ByteSize < UInt32.size →
        cursor.text.saturated = cursor.text ∧ ∀ span after,
          cursor.skipSpan delimiter.opener delimiter.closer = .ok (span, after) →
            after.position < UInt32.size) := by
  obtain ⟨before, rest, sourceEq, standsBetween⟩ := stands.exists_stands
  obtain ⟨text, rfl⟩ := standsBetween.exists_cons (opener_beq_leadByte delimiter) opened
  refine ⟨before, text, sourceEq, standsBetween.position_eq, ?_, ?_, ?_, ?_, ?_⟩
  · constructor
    · rintro ⟨span, after, skipped⟩
      cases cut : cutSpan delimiter .outside 0 text with
      | none => simp [standsBetween.skipSpan_eq, cut] at skipped
      | some found =>
          have matched := firstMatch_of_cutSpan cut
          exact ⟨found.1, found.2, matched.text_eq, matched.closable⟩
    · rintro ⟨inner, rest, textEq, closable⟩
      cases cut : cutSpan delimiter .outside 0 text with
      | none => exact absurd closable (cutSpan_eq_none_iff.mp cut inner rest textEq)
      | some found =>
          exact ⟨_, _, standsBetween.skipSpan_of_firstMatch (firstMatch_of_cutSpan cut)⟩
  · exact fun inner rest found => standsBetween.skipSpan_of_firstMatch found
  · exact standsBetween.skipSpan_of_unmatched sourceEq
  · rintro front string rfl unmatched outside unclosed
    rw [← cutSpan_eq_none_iff]
    exact cutSpan_of_open unmatched outside (closeQuote_eq_none_iff.mpr unclosed)
  · intro small
    refine ⟨by rw [stands.text_eq, saturated_ofString small], fun span after skipped => ?_⟩
    exact (standsBetween.position_le_of_skipSpan sourceEq skipped).trans_lt small

/-- A quoted closing delimiter and a pair of a carriage return and a line feed in parentheses. -/
theorem skipSpan_exact_quoted :
    let source := "\n(\")\"\r\n)"
    let cursor : Cursor := ⟨PaddedText.ofString source, 1, 7, 40⟩
    cursor.StandsIn source ∧ cursor.current = .ok Delimiter.paren.opener ∧
      cursor.skipSpan Delimiter.paren.opener Delimiter.paren.closer =
        .ok (some ⟨2, 7⟩, { cursor with position := 8, line := 8 }) := by
  intro source cursor
  let behind := ['(', '"', ')', '"', '\r', '\n', ')']
  have listEq : source.toList = ['\n'] ++ behind := String.toList_ofList
  have stands : cursor.StandsIn source := standsIn_of_cut listEq (by decide)
  have opened : cursor.current = .ok Delimiter.paren.opener :=
    @current_eq_ok cursor ['\n'] behind (by rw [← listEq, ← ofString_eq_padded]) rfl
  obtain ⟨before, text, sourceEq, positionEq, -, found, -⟩ := skipSpan_exact stands opened
  obtain ⟨rfl, textEq⟩ := cut_unique (listEq.symm.trans sourceEq) positionEq
  obtain rfl := (List.cons.inj textEq).2
  have matched : FirstMatch .paren .outside 0 behind.tail ['"', ')', '"', '\r', '\n'] [] := by
    rw [← cutSpan_eq_some_iff]
    rfl
  exact ⟨stands, opened, found _ _ matched⟩

end Focal.Source
