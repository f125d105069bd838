import Focal.Proofs.Source.Scans
import Mathlib.Data.List.DropRight

/-!
# The quote that closes a string

Of a run of backslashes every second one is escaped itself, so the character behind the run is
escaped when their number is odd (`Escapes`).  A string ends at its first quote that is not escaped
(`EndsString`).  `closeQuote`, which remembers only whether the last character it passed was a
backslash that escapes, finds exactly this quote (`closeQuote_eq_some_iff`).
-/

namespace Focal.Source.Cursor

/-- The character behind a text is escaped: an odd number of backslashes stands at its end. -/
def Escapes (front : List Char) : Prop :=
  (front.rtakeWhile (· == '\\')).length % 2 = 1

/-- The content of a string, in front of the first quote in a text that is not escaped. -/
structure EndsString (text content rest : List Char) : Prop where
  text_eq : text = content ++ '"' :: rest
  unescaped : ¬ Escapes content
  first : ∀ inner more, content = inner ++ '"' :: more → Escapes inner

/-- Whether the character behind a text is escaped, if the first one of the text is or is not. -/
def escapedBehind (escaped : Bool) (text : List Char) : Bool :=
  text.foldl (fun escaped character => !escaped && character == '\\') escaped

theorem escapedBehind_cons (escaped : Bool) (character : Char) (text : List Char) :
    escapedBehind escaped (character :: text) =
      escapedBehind (!escaped && character == '\\') text :=
  rfl

theorem escapedBehind_eq_true_iff {text : List Char} :
    escapedBehind false text = true ↔ Escapes text := by
  induction text using List.reverseRecOn with
  | nil => simp [escapedBehind, Escapes]
  | append_singleton text character ih =>
      rw [escapedBehind, List.foldl_concat, ← escapedBehind, Escapes, List.rtakeWhile_concat]
      by_cases isBackslash : character = '\\'
      -- One more backslash makes the run longer by one; any other character ends it.
      · simp only [isBackslash, BEq.rfl, Bool.and_true, Bool.not_eq_true', if_true,
          List.length_append, List.length_singleton, ← Bool.not_eq_true, ih, Escapes]
        omega
      · simp [isBackslash]

/-- A scan of a string ends at a quote that is not escaped, if all quotes in front of it are. -/
theorem closeQuote_append_iff {escaped : Bool} {content rest : List Char} :
    closeQuote escaped (content ++ '"' :: rest) = some (content, rest) ↔
      escapedBehind escaped content = false ∧
        ∀ inner more, content = inner ++ '"' :: more → escapedBehind escaped inner = true := by
  induction content generalizing escaped with
  | nil => cases escaped <;> simp [closeQuote, escapedBehind, further_eq_some_iff]
  | cons character content ih =>
      have quotes : (∀ inner more, character :: content = inner ++ '"' :: more →
            escapedBehind escaped inner = true) ↔
          (character = '"' → escaped = true) ∧ ∀ inner more, content = inner ++ '"' :: more →
            escapedBehind (!escaped && character == '\\') inner = true := by
        constructor
        · intro all
          exact ⟨fun isQuote => all [] content (by rw [isQuote, List.nil_append]),
            fun inner more contentEq => all (character :: inner) more (by rw [contentEq]; rfl)⟩
        · rintro ⟨atFirst, behind⟩ inner more contentEq
          cases inner with
          | nil => exact atFirst (List.cons.inj contentEq).1
          | cons other inner =>
              obtain ⟨rfl, innerEq⟩ := List.cons.inj contentEq
              exact behind inner more innerEq
      rw [quotes, escapedBehind_cons, List.cons_append]
      cases escaped with
      | true => simp [closeQuote, further_eq_some_iff, ih]
      | false =>
          by_cases isQuote : character = '"'
          · simp [closeQuote, isQuote]
          · simp [closeQuote, isQuote, further_eq_some_iff, ih]

/-- A scan of a string ends at the first quote that is not escaped. -/
theorem closeQuote_eq_some_iff {text content rest : List Char} :
    closeQuote false text = some (content, rest) ↔ EndsString text content rest := by
  constructor
  · intro closed
    obtain rfl := eq_append_of_closeQuote closed
    obtain ⟨unescaped, first⟩ := closeQuote_append_iff.mp closed
    constructor
    case text_eq => rfl
    case unescaped => rw [← escapedBehind_eq_true_iff, unescaped]; exact Bool.false_ne_true
    case first => exact fun inner more contentEq =>
      escapedBehind_eq_true_iff.mp (first inner more contentEq)
  · rintro ⟨rfl, unescaped, first⟩
    refine closeQuote_append_iff.mpr ⟨?_, ?_⟩
    · rwa [← escapedBehind_eq_true_iff, Bool.not_eq_true] at unescaped
    · exact fun inner more contentEq => escapedBehind_eq_true_iff.mpr (first inner more contentEq)

/-- A string has no end if every quote behind it is escaped. -/
theorem closeQuote_eq_none_iff {text : List Char} :
    closeQuote false text = none ↔ ∀ content rest, ¬ EndsString text content rest := by
  simp only [← closeQuote_eq_some_iff, Option.eq_none_iff_forall_ne_some, Prod.forall]

end Focal.Source.Cursor
