import Focal.Decimal.Style
import Focal.Proofs.Text.Terminators
import Focal.Text.Escaped

/-!
# Texts of one line

A text without line terminators is one line of whatever it is written into.  Numbers are written so
(`oneLine_repr`, `oneLine_floatText`), and a string is when it is quoted, whatever it holds
(`oneLine_quoted`).
-/

namespace Focal.Text

/-- No character of a text ends a line. -/
def Inside (text : List Char) : Prop :=
  ∀ character ∈ text, isTerminator character = false

/-- A text has no line terminator. -/
def OneLine (text : String) : Prop :=
  Inside text.toList

instance (text : List Char) : Decidable (Inside text) :=
  List.decidableBAll _ text

instance (text : String) : Decidable (OneLine text) :=
  inferInstanceAs (Decidable (Inside text.toList))

@[simp]
theorem inside_append {first second : List Char} :
    Inside (first ++ second) ↔ Inside first ∧ Inside second :=
  List.forall_mem_append

@[simp]
theorem oneLine_append {first second : String} :
    OneLine (first ++ second) ↔ OneLine first ∧ OneLine second := by
  rw [OneLine, String.toList_append, inside_append, OneLine, OneLine]

@[simp]
theorem oneLine_ofList {text : List Char} : OneLine (String.ofList text) ↔ Inside text := by
  rw [OneLine, String.toList_ofList]

/-- A part of a text without terminators has none. -/
theorem Inside.of_subset {part text : List Char} (inside : Inside text) (subset : part ⊆ text) :
    Inside part :=
  fun character member => inside character (subset member)

theorem inside_replicate {character : Char} (inside : isTerminator character = false)
    (count : Nat) : Inside (List.replicate count character) := by
  intro other member
  rwa [List.eq_of_mem_replicate member]

/-- A text without terminators and a line feed are one line in front of the others. -/
theorem lines_append_feed {text : List Char} (inside : Inside text) (rest : List Char) :
    lines (text ++ '\n' :: rest) = text :: lines rest := by
  induction text with
  | nil => simp [lines]
  | cons character text ih =>
      obtain ⟨first, others⟩ := List.forall_mem_cons.mp inside
      rw [List.cons_append, lines_cons _ first, ih others, extendFirst]

/-! ## Quoted strings -/

/-- Whatever a string holds, it is on one line when it is quoted. -/
theorem oneLine_quoted (text : String) : OneLine (quoted text) := by
  rw [quoted, oneLine_ofList, quoteWith, inside_append, inside_append]
  refine ⟨⟨by decide, fun character member => ?_⟩, by decide⟩
  obtain ⟨original, -, escaped⟩ := List.mem_flatMap.mp member
  rw [isTerminator_eq_false_iff]
  constructor <;> rintro rfl
  · exact not_mem_escapeChar (.inl rfl) escaped
  · exact not_mem_escapeChar (.inr rfl) escaped

/-! ## Numbers -/

theorem inside_toDigits (value : Nat) : Inside (Nat.toDigits 10 value) := by
  intro character member
  exact isTerminator_of_isDigit (Nat.isDigit_of_mem_toDigits (by decide) (by decide) member)

@[simp]
theorem oneLine_repr (value : Nat) : OneLine value.repr := by
  rw [Nat.repr_eq_ofList_toDigits, oneLine_ofList]
  exact inside_toDigits value

theorem oneLine_toString_int (value : Int) : OneLine (toString value) := by
  cases value with
  | ofNat value => exact oneLine_repr value
  | negSucc value =>
      have sign : OneLine "-" := by decide
      exact oneLine_append.mpr ⟨sign, oneLine_repr (value + 1)⟩

end Focal.Text

namespace Focal.Decimal

open Text

/-- The texts that a style adds to digits have no line terminators. -/
structure Style.OneLine (style : Style) : Prop where
  wholeFraction : Inside style.wholeFraction
  exponentMark : Inside style.exponentMark
  nan : Inside style.nan
  infinite : Inside style.infinite

theorem standard_oneLine : standard.OneLine where
  wholeFraction := by decide
  exponentMark := by decide
  nan := by decide
  infinite := by decide

variable {style : Style} {digits : List Char}

theorem inside_stripZeros (inside : Inside digits) : Inside (stripZeros digits) := by
  refine inside.of_subset fun character member => ?_
  have kept := (List.dropWhile_sublist _).subset (List.mem_reverse.mp member)
  exact List.mem_reverse.mp kept

theorem Style.OneLine.positional (oneLine : style.OneLine) (inside : Inside digits) (places : Int) :
    Inside (style.positional digits places) := by
  have fixed : Inside ['0', '.'] ∧ Inside ['.'] := by decide
  have whole := inside.of_subset (List.take_subset places.toNat digits)
  have fraction := inside.of_subset (List.drop_subset places.toNat digits)
  have zeros := inside_replicate (by decide : isTerminator '0' = false)
  rw [Style.positional]
  split
  · simp only [inside_append, zeros, inside, fixed, and_self]
  · simp only [inside_append, zeros, whole, fixed, true_and]
    split
    · exact oneLine.wholeFraction
    · exact fraction

theorem Style.OneLine.scientific (oneLine : style.OneLine) (inside : Inside digits)
    (exponent : Int) : Inside (style.scientific digits exponent) := by
  have first := inside.of_subset (List.take_subset 1 digits)
  have others := inside.of_subset (List.drop_subset 1 digits)
  have power : Inside (toString exponent).toList := oneLine_toString_int exponent
  simp only [Style.scientific, inside_append, first, oneLine.exponentMark, power, true_and,
    and_true]
  split
  · exact List.forall_mem_nil _
  · exact List.forall_mem_cons.mpr ⟨by decide, others⟩

/-- A double is written on one line. -/
theorem Style.OneLine.write (oneLine : style.OneLine) (value : Binary) :
    Inside (style.write value) := by
  have sign (negative : Bool) : Inside (if negative then ['-'] else []) := by
    cases negative <;> decide
  cases value with
  | nan => exact oneLine.nan
  | infinite negative => exact inside_append.mpr ⟨sign negative, oneLine.infinite⟩
  | finite negative mantissa exponent =>
      rw [Style.write, inside_append]
      refine ⟨sign negative, ?_⟩
      split
      · exact inside_append.mpr ⟨by decide, oneLine.wholeFraction⟩
      · have all := inside_stripZeros (inside_toDigits (shortest mantissa exponent).1)
        simp only [Style.positive]
        split
        · exact oneLine.positional all _
        · exact oneLine.scientific all _

theorem oneLine_floatText (value : Float) : Text.OneLine (floatText value) :=
  oneLine_ofList.mpr (standard_oneLine.write (Binary.ofFloat value))

end Focal.Decimal
