import Focal.Proofs.Source.Positions
import Focal.Proofs.Source.Quotes
import Focal.Proofs.Syntax.Grammar
import Focal.Proofs.Syntax.Tokens

/-!
# The texts that string literals encode

`Encodes` says character by character how a text may be written between two quotes.  What it allows
is what `unescape` undoes (`encodes_iff_spells`).  From an opening quote anywhere in a source, the
scan for the closing one stops at the first quote that is not escaped, and only there, so it pairs
backslashes with the characters behind them as `unescape` does (`scanString_eq_ok_iff`).
-/

namespace Focal.Syntax

open Focal.Source Focal.Source.Cursor
open Focal.Text (terminators Whole)

/-! ## Encodings -/

/-- The content of a string literal writes each character of a text in turn: as itself, if it is
neither a quote nor a backslash; as a backslash and itself, if it is not one of the letters `n`, `r`
and `t`; or as a backslash and one of these letters, if it is a line feed, a carriage return or a
tab. -/
inductive Encodes : List Char → List Char → Prop
  | nil : Encodes [] []
  | itself {character : Char} {content text : List Char} (notQuote : character ≠ '"')
      (notBackslash : character ≠ '\\') (behind : Encodes content text) :
      Encodes (character :: content) (character :: text)
  | escaped {character : Char} {content text : List Char} (noLetter : character ∉ ['n', 'r', 't'])
      (behind : Encodes content text) : Encodes ('\\' :: character :: content) (character :: text)
  | lineFeed {content text : List Char} (behind : Encodes content text) :
      Encodes ('\\' :: 'n' :: content) ('\n' :: text)
  | carriageReturn {content text : List Char} (behind : Encodes content text) :
      Encodes ('\\' :: 'r' :: content) ('\r' :: text)
  | tab {content text : List Char} (behind : Encodes content text) :
      Encodes ('\\' :: 't' :: content) ('\t' :: text)

/-- Any character may stand behind a backslash, and then has its value as an escaped one. -/
theorem Encodes.escape {content text : List Char} (behind : Encodes content text)
    (character : Char) : Encodes ('\\' :: character :: content) (escapeValue character :: text) := by
  by_cases isFeed : character = 'n'
  · subst isFeed
    exact behind.lineFeed
  by_cases isReturn : character = 'r'
  · subst isReturn
    exact behind.carriageReturn
  by_cases isTab : character = 't'
  · subst isTab
    exact behind.tab
  · rw [escapeValue.eq_4 character isFeed isReturn isTab]
    exact behind.escaped (by simp [isFeed, isReturn, isTab])

theorem encodes_iff_spells {content text : List Char} :
    Encodes content text ↔ Spells content text := by
  constructor
  · intro encodes
    induction encodes with
    | nil => exact .nil
    | itself notQuote notBackslash _ ih => exact .plain notQuote notBackslash ih
    | @escaped character content text noLetter _ ih =>
        have kept : escapeValue character = character := by
          apply escapeValue.eq_4 <;> rintro rfl <;> exact noLetter (by decide)
        have spells : Spells ('\\' :: character :: content) (escapeValue character :: text) :=
          .escaped ih
        rwa [kept] at spells
    | lineFeed _ ih => exact .escaped ih
    | carriageReturn _ ih => exact .escaped ih
    | tab _ ih => exact .escaped ih
  · intro spells
    induction spells with
    | nil => exact .nil
    | plain notQuote notBackslash _ ih => exact .itself notQuote notBackslash ih
    | escaped _ ih => exact ih.escape _

/-- The content of a string encodes the text that its escapes are decoded to. -/
theorem encodes_of_endsString {text content rest : List Char} (ends : EndsString text content rest) :
    Encodes content (unescape false content) := by
  have spells := spells_of_closeQuote (closeQuote_eq_some_iff.mpr ends)
  exact encodes_iff_spells.mpr (by simpa using spells)

/-! ## Scans of strings from any line -/

theorem scanString_later (count : Nat) (cursor : Cursor) :
    scanString (cursor.later count) = laterBehind count <$> scanString cursor := by
  rw [scanString, position_later, scanString, stringTurn_eq]
  exact loop_quotedTurn_later count cursor none fun found => by rw [sliceFrom_later]

variable {cursor : Cursor} {before text : List Char}

/-- A scan from behind an opening quote. -/
theorem scanString_of_stands (stands : cursor.Stands before ('"' :: text)) :
    cursor.skipByte = .ok (cursor.behind ['"']) ∧
      scanString (cursor.behind ['"']) =
        .ok (match closeQuote false text with
          | none => (none, cursor.behind ('"' :: text))
          | some (content, _) =>
              (some (String.ofList content), cursor.behind ('"' :: content ++ ['"']))) := by
  have whole : ∀ text, Whole before ('"' :: text) := fun text =>
    Whole.of_head_ne before text (by decide)
  have wholeBehind : Whole (before ++ ['"']) text := Whole.of_last_ne before text (by decide)
  have openedEq := @Stands.later_behind _ before ['"'] text stands (whole [])
  constructor
  · apply eq_ok_of_map (later_injective (terminators before))
    rw [← skipByte_later, stands.later_eq, skipByte_between _ _ _ _ (by decide) rfl, openedEq]
  · have scanned := scanString_between cursor.line (cursor.lastLine + terminators before) wholeBehind
      (by simpa using stands.later_room (whole text))
    apply eq_ok_of_map (laterBehind_injective (terminators before))
    rw [← scanString_later, openedEq, scanned]
    cases closed : closeQuote false text with
    | none =>
        have behindEq := @Stands.later_behind _ before ('"' :: text) [] (by simpa using stands)
          (whole text)
        simp [laterBehind, behindEq]
    | some found =>
        rcases found with ⟨content, rest⟩
        have behindEq := @Stands.later_behind _ before ('"' :: content ++ ['"']) rest
          (by simpa [eq_append_of_closeQuote closed] using stands) (whole _)
        rw [List.cons_append] at behindEq
        simp [laterBehind, behindEq]

/-- A literal is accepted exactly if it has an end, and the scan stops behind its closing quote. -/
theorem scanString_eq_ok_iff {content : String} {after : Cursor}
    (stands : cursor.Stands before ('"' :: text)) :
    scanString (cursor.behind ['"']) = .ok (some content, after) ↔
      (∃ rest, EndsString text content.toList rest) ∧
        after = { cursor with
          position := cursor.position + 1 + content.utf8ByteSize + 1
          line := cursor.line + terminators content.toList } := by
  have behindEq := @behind_enclosed '"' '"' (by decide) (by decide) cursor
  rw [(scanString_of_stands stands).2]
  constructor
  · intro scanned
    cases closed : closeQuote false text with
    | none => simp [closed] at scanned
    | some found =>
        rcases found with ⟨inner, rest⟩
        obtain ⟨rfl, rfl⟩ : String.ofList inner = content ∧ _ = after := by
          simpa [closed] using scanned
        rw [String.toList_ofList, utf8ByteSize_ofList]
        exact ⟨⟨rest, closeQuote_eq_some_iff.mp closed⟩, behindEq inner⟩
  · rintro ⟨⟨rest, ends⟩, rfl⟩
    rw [closeQuote_eq_some_iff.mpr ends, ← length_encode_toList]
    simp only [String.ofList_toList, behindEq]

/-- What a literal is read as, once its content is scanned. -/
theorem readString_of_scanString {content : String} {after : Cursor}
    (stands : cursor.Stands before ('"' :: text))
    (scanned : scanString (cursor.behind ['"']) = .ok (some content, after)) :
    readString cursor = .ok (String.ofList (unescape false content.toList), after) := by
  rw [readString, (scanString_of_stands stands).1, liftM_ok, ok_bind, scanned]
  rfl

end Focal.Syntax
