import Focal.Proofs.Source.Spans

/-!
# Matching delimiters

Which closing delimiter ends a span, said without the scan for it: the first one outside every
string in front of which as many spans of the kind were closed as opened.  `cutSpan` finds this one,
and finds none only if there is none (`cutSpan_finds`); so it finds none when a string inside is
open (`cutSpan_of_open`).
-/

namespace Focal.Source

open Focal.Syntax (Delimiter)
open Cursor

/-- How often a character stands outside every string in a text. -/
def unquoted (mark : Char) : Quoting → List Char → Nat
  | _, [] => 0
  | quoting, character :: rest =>
      (if quoting = .outside ∧ character = mark then 1 else 0) +
        unquoted mark (quoting.next character) rest

/-- A text inside `depth + 1` spans of a kind, of which all but one are closed at its end, so that a
closing delimiter right behind it ends that one. -/
def Closable (delimiter : Delimiter) (quoting : Quoting) (depth : Nat) (text : List Char) : Prop :=
  quoting.after text = .outside ∧
    unquoted delimiter.closerChar quoting text = depth + unquoted delimiter.openerChar quoting text

/-- No closing delimiter in a text ends the span around it. -/
def Unmatched (delimiter : Delimiter) (quoting : Quoting) (depth : Nat) (text : List Char) : Prop :=
  ∀ inner rest, text = inner ++ delimiter.closerChar :: rest →
    ¬ Closable delimiter quoting depth inner

/-- The first closing delimiter that ends the span around a text stands behind `inner`. -/
structure FirstMatch (delimiter : Delimiter) (quoting : Quoting) (depth : Nat)
    (text inner rest : List Char) : Prop where
  text_eq : text = inner ++ delimiter.closerChar :: rest
  closable : Closable delimiter quoting depth inner
  first : Unmatched delimiter quoting depth inner

variable {delimiter : Delimiter} {quoting : Quoting} {depth : Nat} {character : Char}
  {text : List Char}

theorem closer_ne_opener (delimiter : Delimiter) :
    delimiter.closerChar ≠ delimiter.openerChar := by
  cases delimiter <;> decide

theorem next_delimiter (delimiter : Delimiter) :
    Quoting.outside.next delimiter.openerChar = .outside ∧
      Quoting.outside.next delimiter.closerChar = .outside := by
  cases delimiter <;> decide

/-! ## One character -/

theorem Closable.nil_iff :
    Closable delimiter quoting depth [] ↔ quoting = .outside ∧ depth = 0 := by
  simp [Closable, unquoted, eq_comm]

theorem Closable.cons_inside_iff {escaped : Bool} :
    Closable delimiter (.inside escaped) depth (character :: text) ↔
      Closable delimiter ((Quoting.inside escaped).next character) depth text := by
  simp [Closable, unquoted]

theorem Closable.cons_closer_iff :
    Closable delimiter .outside (depth + 1) (delimiter.closerChar :: text) ↔
      Closable delimiter .outside depth text := by
  simp only [Closable, unquoted, Quoting.after_cons, next_delimiter, closer_ne_opener, and_false,
    and_self, if_true, if_false]
  exact and_congr_right fun _ => by omega

theorem Closable.cons_opener_iff :
    Closable delimiter .outside depth (delimiter.openerChar :: text) ↔
      Closable delimiter .outside (depth + 1) text := by
  simp only [Closable, unquoted, Quoting.after_cons, next_delimiter, (closer_ne_opener _).symm,
    and_false, and_self, if_true, if_false]
  exact and_congr_right fun _ => by omega

theorem Closable.cons_other_iff (notCloser : character ≠ delimiter.closerChar)
    (notOpener : character ≠ delimiter.openerChar) :
    Closable delimiter .outside depth (character :: text) ↔
      Closable delimiter (Quoting.outside.next character) depth text := by
  simp [Closable, unquoted, notCloser, notOpener]

/-- A step over a character that does not end the span. -/
theorem Unmatched.cons {next : Quoting} {deeper : Nat}
    (differs : character = delimiter.closerChar → ¬ Closable delimiter quoting depth [])
    (step : ∀ inner, Closable delimiter quoting depth (character :: inner) ↔
      Closable delimiter next deeper inner)
    (unmatched : Unmatched delimiter next deeper text) :
    Unmatched delimiter quoting depth (character :: text) := by
  intro inner rest textEq closable
  cases inner with
  | nil => exact differs (List.cons.inj textEq).1 closable
  | cons first inner =>
      obtain ⟨rfl, innerEq⟩ := List.cons.inj textEq
      exact unmatched inner rest innerEq ((step inner).mp closable)

theorem FirstMatch.cons {next : Quoting} {deeper : Nat} {inner rest : List Char}
    (differs : character = delimiter.closerChar → ¬ Closable delimiter quoting depth [])
    (step : ∀ inner, Closable delimiter quoting depth (character :: inner) ↔
      Closable delimiter next deeper inner)
    (found : FirstMatch delimiter next deeper text inner rest) :
    FirstMatch delimiter quoting depth (character :: text) (character :: inner) rest where
  text_eq := by rw [found.text_eq, List.cons_append]
  closable := (step inner).mpr found.closable
  first := found.first.cons differs step

/-! ## The scan -/

/-- A scan for the end of a span finds the first closing delimiter that ends it, or none if there is
none. -/
def FindsMatch (delimiter : Delimiter) (quoting : Quoting) (depth : Nat) (text : List Char) :
    Option (List Char × List Char) → Prop
  | none => Unmatched delimiter quoting depth text
  | some (inner, rest) => FirstMatch delimiter quoting depth text inner rest

theorem FindsMatch.further {next : Quoting} {deeper : Nat}
    {found : Option (List Char × List Char)}
    (differs : character = delimiter.closerChar → ¬ Closable delimiter quoting depth [])
    (step : ∀ inner, Closable delimiter quoting depth (character :: inner) ↔
      Closable delimiter next deeper inner)
    (finds : FindsMatch delimiter next deeper text found) :
    FindsMatch delimiter quoting depth (character :: text) (further [character] found) := by
  cases found with
  | none => exact Unmatched.cons differs step finds
  | some cut => exact FirstMatch.cons differs step finds

theorem cutSpan_finds (delimiter : Delimiter) (quoting : Quoting) (depth : Nat)
    (text : List Char) :
    FindsMatch delimiter quoting depth text (cutSpan delimiter quoting depth text) := by
  fun_induction cutSpan delimiter quoting depth text with
  | case1 => simp [FindsMatch, Unmatched]
  | case2 escaped depth character text ih =>
      exact ih.further (by simp [Closable.nil_iff]) fun _ => Closable.cons_inside_iff
  | case3 text =>
      exact ⟨rfl, Closable.nil_iff.mpr ⟨rfl, rfl⟩, by simp [Unmatched]⟩
  | case4 text depth ih =>
      exact ih.further (by simp [Closable.nil_iff]) fun _ => Closable.cons_closer_iff
  | case5 depth text differs ih =>
      exact ih.further (absurd · differs) fun _ => Closable.cons_opener_iff
  | case6 depth character text notCloser notOpener ih =>
      exact ih.further (absurd · notCloser) fun _ =>
        Closable.cons_other_iff notCloser notOpener

theorem unmatched_of_cutSpan (noneFound : cutSpan delimiter quoting depth text = none) :
    Unmatched delimiter quoting depth text := by
  have finds := cutSpan_finds delimiter quoting depth text
  rwa [noneFound] at finds

theorem firstMatch_of_cutSpan {inner rest : List Char}
    (cut : cutSpan delimiter quoting depth text = some (inner, rest)) :
    FirstMatch delimiter quoting depth text inner rest := by
  have finds := cutSpan_finds delimiter quoting depth text
  rwa [cut] at finds

/-- No closing delimiter in front of the one that ends a span ends it too. -/
theorem FirstMatch.not_longer {first second behind more : List Char}
    (found : FirstMatch delimiter quoting depth text second more)
    (closable : Closable delimiter quoting depth first)
    (textEq : text = first ++ delimiter.closerChar :: behind) : second <+: first := by
  rw [found.text_eq] at textEq
  obtain ⟨later, firstEq, -⟩ | ⟨later, secondEq, restEq⟩ := List.append_eq_append_iff.mp textEq
  · exact ⟨later, firstEq.symm⟩
  · cases later with
    | nil => exact ⟨[], by simpa using secondEq⟩
    | cons closer later =>
        obtain ⟨rfl, -⟩ := List.cons.inj restEq
        exact absurd closable (found.first first later secondEq)

theorem cutSpan_eq_some_iff {inner rest : List Char} :
    cutSpan delimiter quoting depth text = some (inner, rest) ↔
      FirstMatch delimiter quoting depth text inner rest := by
  constructor
  · exact firstMatch_of_cutSpan
  · intro found
    cases cut : cutSpan delimiter quoting depth text with
    | none =>
        exact absurd found.closable (unmatched_of_cutSpan cut inner rest found.text_eq)
    | some other =>
        rcases other with ⟨first, behind⟩
        have foundHere := firstMatch_of_cutSpan cut
        obtain rfl : first = inner := by
          have shorter := foundHere.not_longer found.closable found.text_eq
          have longer := found.not_longer foundHere.closable foundHere.text_eq
          exact shorter.eq_of_length_le longer.length_le
        have restEq := foundHere.text_eq.symm.trans found.text_eq
        rw [List.cons.inj (List.append_cancel_left restEq) |>.2]

theorem cutSpan_eq_none_iff :
    cutSpan delimiter quoting depth text = none ↔ Unmatched delimiter quoting depth text := by
  constructor
  · exact unmatched_of_cutSpan
  · intro unmatched
    by_contra found
    obtain ⟨⟨inner, rest⟩, cut⟩ := Option.ne_none_iff_exists'.mp found
    obtain ⟨textEq, closable, -⟩ := firstMatch_of_cutSpan cut
    exact unmatched inner rest textEq closable

/-! ## Open strings -/

/-- A string that is not closed in a text goes on to the end of the text. -/
theorem Quoting.after_ne_outside {escaped : Bool} {first rest : List Char} :
    closeQuote escaped (first ++ rest) = none → (Quoting.inside escaped).after first ≠ .outside := by
  induction first generalizing escaped with
  | nil => simp
  | cons character first ih =>
      intro unclosed
      rw [Quoting.after_cons]
      cases escaped with
      | true => exact ih (Option.map_eq_none_iff.mp unclosed)
      | false =>
          rw [List.cons_append, closeQuote] at unclosed
          split at unclosed
          · cases unclosed
          · rename_i notQuote
            rw [Quoting.next, if_neg notQuote]
            exact ih (Option.map_eq_none_iff.mp unclosed)

theorem Quoting.after_quote_ne_outside {front text : List Char}
    (outside : Quoting.outside.after front = .outside) (unclosed : closeQuote false text = none) :
    Quoting.outside.after (front ++ '"' :: text) ≠ .outside := by
  rw [Quoting.after_append, outside, Quoting.after_cons]
  exact Quoting.after_ne_outside (by rwa [List.append_nil])

/-- A span has no end if a string in it is not closed. -/
theorem cutSpan_of_open {delimiter : Delimiter} {inner text : List Char}
    (unmatched : Unmatched delimiter .outside 0 inner)
    (outside : Quoting.outside.after inner = .outside) (unclosed : closeQuote false text = none) :
    cutSpan delimiter .outside 0 (inner ++ '"' :: text) = none := by
  have notQuote : delimiter.closerChar ≠ '"' := by
    cases delimiter <;> decide
  by_contra found
  obtain ⟨⟨content, rest⟩, cut⟩ := Option.ne_none_iff_exists'.mp found
  obtain ⟨textEq, closable, -⟩ := firstMatch_of_cutSpan cut
  -- An end behind the quote would be in the string, and one in front of it contradicts `unmatched`.
  obtain ⟨quoted, rfl, quotedEq⟩ | ⟨more, rfl, moreEq⟩ := List.append_eq_append_iff.mp textEq
  · cases quoted with
    | nil => exact notQuote (List.cons.inj quotedEq).1.symm
    | cons quote quoted =>
        obtain ⟨rfl, rfl⟩ := List.cons.inj quotedEq
        have afterEq := closable.1
        rw [Quoting.after_append, outside, Quoting.after_cons] at afterEq
        exact Quoting.after_ne_outside unclosed afterEq
  · cases more with
    | nil => exact notQuote (List.cons.inj moreEq).1
    | cons closer more =>
        obtain ⟨rfl, -⟩ := List.cons.inj moreEq
        exact unmatched content more rfl closable

end Focal.Source
