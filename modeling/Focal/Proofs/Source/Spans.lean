import Focal.Proofs.Source.Scans
import Focal.Syntax.Parsing

/-!
# Balanced spans on lists of characters

A span ends at the first closing delimiter of its kind that is outside every string and closes no
span opened inside.  `cutSpan` finds it character by character; `Quoting` is what it has to remember
of the strings it passes.
-/

namespace Focal.Source

open Focal.Syntax (Delimiter)
open Focal.Text (terminators isTerminator Whole)
open Cursor

variable (first last : Nat)

/-! ## Inside and outside strings -/

/-- Where a character stands: outside every string, or inside one, perhaps behind a backslash. -/
inductive Quoting where
  | outside
  | inside (escaped : Bool)
deriving DecidableEq

/-- Where the character behind one stands. -/
def Quoting.next : Quoting → Char → Quoting
  | outside, character => if character = '"' then inside false else outside
  | inside true, _ => inside false
  | inside false, character => if character = '"' then outside else inside (character == '\\')

/-- Where the character behind a text stands. -/
def Quoting.after (quoting : Quoting) (text : List Char) : Quoting :=
  text.foldl Quoting.next quoting

@[simp]
theorem Quoting.after_nil (quoting : Quoting) : quoting.after [] = quoting :=
  rfl

@[simp]
theorem Quoting.after_cons (quoting : Quoting) (character : Char) (text : List Char) :
    quoting.after (character :: text) = (quoting.next character).after text :=
  rfl

theorem Quoting.after_append (quoting : Quoting) (first second : List Char) :
    quoting.after (first ++ second) = (quoting.after first).after second :=
  List.foldl_append

/-! ## The end of a span -/

/-- The content of a span up to the closing delimiter that ends it, and the text behind that one.
There are `depth` more spans of the kind to be closed before. -/
def cutSpan (delimiter : Delimiter) :
    Quoting → Nat → List Char → Option (List Char × List Char)
  | _, _, [] => none
  | .inside escaped, depth, character :: rest =>
      further [character] (cutSpan delimiter ((Quoting.inside escaped).next character) depth rest)
  | .outside, depth, character :: rest =>
      if character = delimiter.closerChar then
        match depth with
        | 0 => some ([], rest)
        | depth + 1 => further [character] (cutSpan delimiter .outside depth rest)
      else if character = delimiter.openerChar then
        further [character] (cutSpan delimiter .outside (depth + 1) rest)
      else further [character] (cutSpan delimiter (Quoting.outside.next character) depth rest)

theorem eq_append_of_cutSpan {delimiter : Delimiter} {quoting : Quoting} {depth : Nat}
    {text content rest : List Char} :
    cutSpan delimiter quoting depth text = some (content, rest) →
      text = content ++ delimiter.closerChar :: rest := by
  fun_induction cutSpan delimiter quoting depth text generalizing content with
  | case1 => simp
  | case2 escaped depth character text ih =>
      intro cut
      obtain ⟨inner, found, rfl⟩ := further_eq_some_iff.mp cut
      simp [ih found]
  | case3 text => simp_all
  | case4 text depth ih =>
      intro cut
      obtain ⟨inner, found, rfl⟩ := further_eq_some_iff.mp cut
      simp [ih found]
  | case5 depth text _ ih =>
      intro cut
      obtain ⟨inner, found, rfl⟩ := further_eq_some_iff.mp cut
      simp [ih found]
  | case6 depth character text _ _ ih =>
      intro cut
      obtain ⟨inner, found, rfl⟩ := further_eq_some_iff.mp cut
      simp [ih found]

/-- Where a span ends does not depend on the text behind it. -/
theorem cutSpan_append {delimiter : Delimiter} {quoting : Quoting} {depth : Nat}
    {text content rest : List Char} (more : List Char) :
    cutSpan delimiter quoting depth text = some (content, rest) →
      cutSpan delimiter quoting depth (text ++ more) = some (content, rest ++ more) := by
  fun_induction cutSpan delimiter quoting depth text generalizing content with
  | case1 => simp
  | case2 escaped depth character text ih =>
      intro cut
      obtain ⟨inner, found, rfl⟩ := further_eq_some_iff.mp cut
      simp [cutSpan, ih found]
  | case3 text => simp_all [cutSpan]
  | case4 text depth ih =>
      intro cut
      obtain ⟨inner, found, rfl⟩ := further_eq_some_iff.mp cut
      simp [cutSpan, ih found]
  | case5 depth text differs ih =>
      intro cut
      obtain ⟨inner, found, rfl⟩ := further_eq_some_iff.mp cut
      simp [cutSpan, differs, ih found]
  | case6 depth character text notCloser notOpener ih =>
      intro cut
      obtain ⟨inner, found, rfl⟩ := further_eq_some_iff.mp cut
      simp [cutSpan, notCloser, notOpener, ih found]

/-- A span goes on behind the closing quote of a string, and has no end when the string has none. -/
theorem cutSpan_inside (delimiter : Delimiter) (escaped : Bool) (depth : Nat) (text : List Char) :
    cutSpan delimiter (.inside escaped) depth text =
      match closeQuote escaped text with
      | none => none
      | some (content, rest) =>
          further (content ++ ['"']) (cutSpan delimiter .outside depth rest) := by
  fun_induction closeQuote escaped text with
  | case1 => simp [cutSpan]
  | case2 character text ih =>
      rw [cutSpan, Quoting.next, ih]
      cases closeQuote false text with
      | none => rfl
      | some cut =>
          rcases cut with ⟨content, rest⟩
          simp
  | case3 text => simp [cutSpan, Quoting.next]
  | case4 character text differs ih =>
      rw [cutSpan, Quoting.next, if_neg differs, ih]
      cases closeQuote (character == '\\') text with
      | none => rfl
      | some cut =>
          rcases cut with ⟨content, rest⟩
          simp

/-- Characters that are neither delimiters of the kind nor quotes belong to the content. -/
theorem cutSpan_append_of_plain {delimiter : Delimiter} {plain : List Char} (depth : Nat)
    (rest : List Char)
    (differ : ∀ character ∈ plain, character ≠ delimiter.closerChar ∧
      character ≠ delimiter.openerChar ∧ character ≠ '"') :
    cutSpan delimiter .outside depth (plain ++ rest) =
      further plain (cutSpan delimiter .outside depth rest) := by
  induction plain with
  | nil => simp
  | cons character plain ih =>
      obtain ⟨notCloser, notOpener, notQuote⟩ := differ character List.mem_cons_self
      have kept : cutSpan delimiter .outside depth (character :: (plain ++ rest)) =
          further [character] (cutSpan delimiter .outside depth (plain ++ rest)) := by
        simp [cutSpan, notCloser, notOpener, notQuote, Quoting.next]
      rw [List.cons_append, kept,
        ih fun other member => differ other (List.mem_cons_of_mem character member),
        further_further, List.singleton_append]

/-! ## The scan of a span -/

theorem opener_beq_leadByte (delimiter : Delimiter) (text : List Char) :
    (leadByte text == delimiter.opener) = (text.head? == some delimiter.openerChar) := by
  cases delimiter with
  | paren => exact leadByte_beq '(' byteOpenParen rfl (by decide) text
  | brace => exact leadByte_beq '\x7b' byteOpenBrace rfl (by decide) text

theorem closer_beq_leadByte (delimiter : Delimiter) (text : List Char) :
    (leadByte text == delimiter.closer) = (text.head? == some delimiter.closerChar) := by
  cases delimiter with
  | paren => exact leadByte_beq ')' byteCloseParen rfl (by decide) text
  | brace => exact leadByte_beq '\x7d' byteCloseBrace rfl (by decide) text

/-- Delimiters are one byte long. -/
theorem delimiter_small (delimiter : Delimiter) :
    delimiter.openerChar.val.toNat < 128 ∧ delimiter.closerChar.val.toNat < 128 := by
  cases delimiter <;> decide

/-- Delimiters end no line. -/
theorem delimiter_inside (delimiter : Delimiter) :
    isTerminator delimiter.openerChar = false ∧ isTerminator delimiter.closerChar = false := by
  cases delimiter <;> decide

/-- One turn over a span ends it, or finds that it has no end, or steps over some of it. -/
private theorem exists_spanTurn (delimiter : Delimiter) (start depth : Nat)
    {before text : List Char} (whole : Whole before text)
    (room : first + terminators (before ++ text) ≤ last) :
    (spanTurn delimiter.opener delimiter.closer start depth (between first last before text) =
        .ok (.stop none (between first last (before ++ text) [])) ∧
        cutSpan delimiter .outside depth text = none) ∨
      (∃ rest, text = delimiter.closerChar :: rest ∧ depth = 0 ∧
        spanTurn delimiter.opener delimiter.closer start depth (between first last before text) =
          .ok (.stop (some ⟨start, (encode before).length⟩)
            (between first last (before ++ [delimiter.closerChar]) rest))) ∨
      ∃ read rest deeper, text = read ++ rest ∧ read ≠ [] ∧ Whole (before ++ read) rest ∧
        spanTurn delimiter.opener delimiter.closer start depth (between first last before text) =
          .ok (.next deeper (between first last (before ++ read) rest)) ∧
        cutSpan delimiter .outside depth text =
          further read (cutSpan delimiter .outside deeper rest) := by
  have quoteAt := leadByte_beq '"' byteQuote rfl (by decide)
  have openerAt := opener_beq_leadByte delimiter
  have closerAt := closer_beq_leadByte delimiter
  obtain ⟨openerInside, closerInside⟩ := delimiter_inside delimiter
  obtain ⟨openerSmall, closerSmall⟩ := delimiter_small delimiter
  have delimitersDiffer : delimiter.openerChar ≠ delimiter.closerChar ∧
      '"' ≠ delimiter.openerChar ∧ '"' ≠ delimiter.closerChar := by
    cases delimiter <;> decide
  cases text with
  | nil =>
      left
      simp [spanTurn, cutSpan, pure_eq_ok]
  | cons character text =>
      rw [spanTurn, isEnd_between, ok_bind, current_between, ok_bind]
      by_cases isCloser : character = delimiter.closerChar
      · subst isCloser
        have closed := skipByte_between first last before text closerSmall closerInside
        cases depth with
        | zero =>
            refine Or.inr (Or.inl ⟨text, rfl, rfl, ?_⟩)
            simp [closerAt, closed, pure_eq_ok]
        | succ depth =>
            refine Or.inr (Or.inr ⟨[delimiter.closerChar], text, depth, rfl, by simp,
              Whole.of_last_inside _ _ closerInside, ?_, ?_⟩)
            · simp [closerAt, closed, pure_eq_ok]
            · simp [cutSpan]
      by_cases isOpener : character = delimiter.openerChar
      · subst isOpener
        have opened := skipByte_between first last before text openerSmall openerInside
        refine Or.inr (Or.inr ⟨[delimiter.openerChar], text, depth + 1, rfl, by simp,
          Whole.of_last_inside _ _ openerInside, ?_, ?_⟩)
        · simp [closerAt, openerAt, isCloser, opened, pure_eq_ok]
        · simp [cutSpan, isCloser]
      by_cases isQuote : character = '"'
      · subst isQuote
        have skipped := skipQuoted_between first last room
        have spanEq : cutSpan delimiter .outside depth ('"' :: text) =
            further ['"'] (cutSpan delimiter (.inside false) depth text) := by
          simp [cutSpan, isCloser, isOpener, Quoting.next]
        rw [spanEq, cutSpan_inside]
        cases closed : closeQuote false text with
        | none =>
            left
            rw [closed] at skipped
            simp [closerAt, openerAt, quoteAt, isCloser, isOpener, skipped, pure_eq_ok]
        | some cut =>
            rcases cut with ⟨content, rest⟩
            have textEq := eq_append_of_closeQuote closed
            rw [closed] at skipped
            refine Or.inr (Or.inr ⟨'"' :: content ++ ['"'], rest, depth, by simp [textEq], by simp,
              ?_, ?_, by simp⟩)
            · rw [← List.append_assoc]
              exact Whole.of_last_ne _ _ (by decide)
            · simp [closerAt, openerAt, quoteAt, isCloser, isOpener, skipped, pure_eq_ok]
      · obtain ⟨read, rest, textEq, wholeRead, step, stepped⟩ :=
          exists_step first last whole room
        have differ : ∀ other ∈ read, other ≠ delimiter.closerChar ∧
            other ≠ delimiter.openerChar ∧ other ≠ '"' := by
          rcases step with rfl | rfl
          · simpa using ⟨isCloser, isOpener, isQuote⟩
          · cases delimiter <;> simp [Delimiter.openerChar, Delimiter.closerChar]
        have nonempty : read ≠ [] := by
          rcases step with rfl | rfl <;> simp
        refine Or.inr (Or.inr ⟨read, rest, depth, textEq, nonempty, wholeRead, ?_, ?_⟩)
        · rcases stepped with ended | ⟨ended, moved, _⟩
          · simp [closerAt, openerAt, quoteAt, isCloser, isOpener, isQuote, ended, pure_eq_ok]
          · simp [closerAt, openerAt, quoteAt, isCloser, isOpener, isQuote, ended, moved,
              pure_eq_ok]
        · rw [textEq, cutSpan_append_of_plain depth rest differ]

private theorem loop_spanTurn (delimiter : Delimiter) (start depth : Nat)
    {before text : List Char} (whole : Whole before text)
    (room : first + terminators (before ++ text) ≤ last) :
    loop .stalled (spanTurn delimiter.opener delimiter.closer start) depth
        (between first last before text) =
      .ok (match cutSpan delimiter .outside depth text with
        | none => (none, between first last (before ++ text) [])
        | some (content, rest) =>
            (some ⟨start, (encode (before ++ content)).length⟩,
              between first last (before ++ content ++ [delimiter.closerChar]) rest)) := by
  induction lengthEq : text.length using Nat.strong_induction_on
    generalizing before text depth with
  | _ length ih =>
      rcases exists_spanTurn first last delimiter start depth whole room with
        ⟨turned, cut⟩ | ⟨rest, rfl, rfl, turned⟩ |
        ⟨read, rest, deeper, rfl, nonempty, wholeRead, turned, cut⟩
      · rw [loop_of_stop turned, cut]
      · rw [loop_of_stop turned]
        simp [cutSpan]
      · have shorter : rest.length < length := by
          have positive := List.length_pos_iff.mpr nonempty
          rw [← lengthEq, List.length_append]
          omega
        rw [loop_of_next turned (remaining_between_lt first last nonempty),
          ih rest.length shorter deeper wholeRead (by simpa using room) rfl, cut]
        cases cutSpan delimiter .outside deeper rest with
        | none => simp
        | some found =>
            rcases found with ⟨content, behind⟩
            simp

/-- Stepping over a span leads behind the delimiter that ends it, or to the end of the text when
there is none. -/
theorem skipSpan_between {delimiter : Delimiter} {before text : List Char}
    (room : first + terminators (before ++ delimiter.openerChar :: text) ≤ last) :
    (between first last before (delimiter.openerChar :: text)).skipSpan delimiter.opener
        delimiter.closer =
      .ok (match cutSpan delimiter .outside 0 text with
        | none => (none, between first last (before ++ delimiter.openerChar :: text) [])
        | some (content, rest) =>
            (some ⟨(encode (before ++ [delimiter.openerChar])).length,
                (encode (before ++ [delimiter.openerChar] ++ content)).length⟩,
              between first last
                (before ++ [delimiter.openerChar] ++ content ++ [delimiter.closerChar]) rest)) := by
  have openerAt := opener_beq_leadByte delimiter
  have boundary := isBoundary_padded before (delimiter.openerChar :: text)
  have inside := (delimiter_inside delimiter).1
  have opened := skipByte_between first last before text (delimiter_small delimiter).1 inside
  have whole : Whole (before ++ [delimiter.openerChar]) text := Whole.of_last_inside _ _ inside
  have looped := loop_spanTurn first last delimiter
    (encode (before ++ [delimiter.openerChar])).length 0 whole (by simpa using room)
  rw [skipSpan, current_between, ok_bind, bne, openerAt, text_between, position_between, boundary]
  simp only [List.head?_cons, BEq.rfl, Bool.not_true, Bool.false_eq_true, if_false, opened, ok_bind,
    position_between, looped, List.append_assoc, List.singleton_append]

/-- A span that has an end is found, and its content is what can be sliced out. -/
theorem exists_span {delimiter : Delimiter} {before text content rest : List Char}
    (room : first + terminators (before ++ delimiter.openerChar :: text) ≤ last)
    (cut : cutSpan delimiter .outside 0 text = some (content, rest)) :
    ∃ span after, after = between first last
        (before ++ [delimiter.openerChar] ++ content ++ [delimiter.closerChar]) rest ∧
      (between first last before (delimiter.openerChar :: text)).skipSpan delimiter.opener
        delimiter.closer = .ok (some span, after) ∧
      after.slice span.start span.stop = .ok (String.ofList content) := by
  have skipped := skipSpan_between first last room
  rw [cut] at skipped
  refine ⟨_, _, rfl, skipped, ?_⟩
  exact @slice_eq_ok _ (before ++ [delimiter.openerChar]) content (delimiter.closerChar :: rest)
    (by simp)

/-- A text is cut out of a span exactly when it is the content of that span. -/
theorem exists_slice_iff {delimiter : Delimiter} {before text : List Char} {body : String}
    (room : first + terminators (before ++ delimiter.openerChar :: text) ≤ last) :
    (∃ span after, (between first last before (delimiter.openerChar :: text)).skipSpan
        delimiter.opener delimiter.closer = .ok (some span, after) ∧
      after.slice span.start span.stop = .ok body) ↔
      ∃ rest, cutSpan delimiter .outside 0 text = some (body.toList, rest) := by
  constructor
  · rintro ⟨span, after, skipped, sliced⟩
    cases cut : cutSpan delimiter .outside 0 text with
    | none => simp [skipSpan_between first last room, cut] at skipped
    | some found =>
        rcases found with ⟨content, rest⟩
        obtain ⟨_, _, -, skippedHere, slicedHere⟩ := exists_span first last room cut
        obtain ⟨rfl, rfl⟩ : _ = span ∧ _ = after := by
          simpa using skippedHere.symm.trans skipped
        have bodyEq : String.ofList content = body :=
          Except.ok.inj (slicedHere.symm.trans sliced)
        exact ⟨rest, by rw [← bodyEq, String.toList_ofList]⟩
  · rintro ⟨rest, cut⟩
    obtain ⟨span, after, -, skipped, sliced⟩ := exists_span first last room cut
    exact ⟨span, after, skipped, by rwa [String.ofList_toList] at sliced⟩

end Focal.Source
