import Focal.Proofs.Syntax.Soundness

/-!
# Bodies as programs

What stands between two delimiters is read as a program of its own, unless it is white space alone.
A text of a group, of a call of a name, or of a block therefore reads exactly when its body is white
space or reads as a program (`Reading.program_group`, `Reading.program_call`,
`Reading.program_block`).

White space is more than trivia: only blanks and line terminators may stand between tokens, so a
text of white space alone reads as a program only if it is trivia (`trivia_iff_of_isWhite`).  A text
that reads and is not trivia is therefore no blank body, and its program is what the body holds.
-/

namespace Focal.Syntax

open Focal.Source Focal.Source.Cursor

/-! ## White space and trivia -/

/-- No code point of white space is that of a letter. -/
private theorem contains_alphabetic_of_whiteSpace :
    ∀ range ∈ Unicode.whiteSpace, ∀ offset < range.2 - range.1 + 1,
      Unicode.alphabetic.contains (range.1 + offset) = false := by
  decide +kernel

theorem startsName_of_isWhiteSpace {character : Char}
    (white : Unicode.isWhiteSpace character = true) : startsName character = false := by
  have ascending : Unicode.Ranges.Ascending 0 Unicode.whiteSpace := by decide
  obtain ⟨range, member, low, high⟩ := (Unicode.Ranges.contains_eq_true_iff ascending).mp white
  have noLetter := contains_alphabetic_of_whiteSpace range member (character.toNat - range.1)
    (by omega)
  rw [Nat.add_sub_cancel' low] at noLetter
  have differ : character ≠ '_' ∧ character ≠ '$' := by
    constructor <;> rintro rfl <;> exact absurd white (by decide)
  simp [startsName, Unicode.isAlphabetic, noLetter, differ]

theorem isDigit_of_isWhiteSpace {character : Char}
    (white : Unicode.isWhiteSpace character = true) : character.isDigit = false := by
  cases digit : character.isDigit with
  | false => rfl
  | true =>
      have range : 48 ≤ character.toNat ∧ character.toNat ≤ 57 := by
        simpa [Char.isDigit, UInt32.le_iff_toNat_le] using digit
      have outside : ∀ point < 58, 48 ≤ point → Unicode.whiteSpace.contains point = false := by
        decide
      exact absurd white (by simp [Unicode.isWhiteSpace, outside _ (by omega) range.1])

theorem isWhiteSpace_of_isTrivia {character : Char} (trivia : isTrivia character = true) :
    Unicode.isWhiteSpace character = true := by
  rcases isTrivia_cases trivia with rfl | rfl | rfl | rfl <;> decide

theorem Trivia.isWhite {text : List Char} (trivia : Trivia text) : Reading.isWhite text = true :=
  List.all_eq_true.mpr fun character member => isWhiteSpace_of_isTrivia (trivia character member)

namespace Reading

variable {readProgram : List Char → Except Offence Program} {text : List Char}

/-- No term starts with white space. -/
theorem primary_of_isWhiteSpace {initial : Char} (white : Unicode.isWhiteSpace initial = true) :
    primary readProgram initial text = failExpecting .value (initial :: text) := by
  have plain := isPlain_of_isWhiteSpace white
  simp only [isPlain, Bool.and_eq_true, bne_iff_ne] at plain
  simp [primary, plain, isDigit_of_isWhiteSpace white, startsName_of_isWhiteSpace white]

theorem trivia_of_program {tree : Program} (white : isWhite text = true)
    (read : program Draft.empty text = .ok tree) : Trivia text := by
  have whiteOf : ∀ character ∈ text, Unicode.isWhiteSpace character = true :=
    List.all_eq_true.mp white
  have turn := program_turn Draft.empty text
  generalize program Draft.empty text = result at turn read
  cases turn with
  | finish around => exact around
  | comma => exact absurd (whiteOf ',' (by simp)) (by decide)
  | semicolon => exact absurd (whiteOf ';' (by simp)) (by decide)
  | stop => cases read
  | @term _ rest _ initial _ _ _ termed =>
      have failed := @primary_of_isWhiteSpace (program Draft.empty) rest initial
        (whiteOf initial (by simp))
      cases failed.symm.trans termed

/-- White space alone reads as a program exactly when it is trivia. -/
theorem trivia_iff_of_isWhite (white : isWhite text = true) :
    (∃ tree, program Draft.empty text = .ok tree) ↔ Trivia text := by
  constructor
  · rintro ⟨tree, read⟩
    exact trivia_of_program white read
  · intro trivia
    exact ⟨_, program_end trivia Draft.empty⟩

/-! ## Bodies to the end of a text -/

/-- A text is a body: white space alone, or a program. -/
def IsBody (inner : List Char) : Prop :=
  isWhite inner = true ∨ ∃ tree, program Draft.empty inner = .ok tree

theorem isBody_iff {inner : List Char} :
    IsBody inner ↔ ∃ value, content (program Draft.empty) inner = .ok value := by
  rw [IsBody, content]
  cases isWhite inner with
  | true => simp
  | false => cases program Draft.empty inner <;> simp

/-- A span reaches up to the end of a text. -/
def SpansTo (delimiter : Delimiter) (inner : List Char) : Prop :=
  cutSpan delimiter .outside 0 (inner ++ [delimiter.closerChar]) = some (inner, [])

variable {delimiter : Delimiter} {inner : List Char}

/-- A term that ends a text with a body reads exactly when the body does. -/
theorem program_enclosed {draft : Draft} {initial : Char} (build : Body → Term)
    (spans : SpansTo delimiter inner) (token : startsToken initial = true)
    (termed : term (program Draft.empty) draft.term initial (inner ++ [delimiter.closerChar]) =
      mapFirst build (body (program Draft.empty) delimiter (inner ++ [delimiter.closerChar]))) :
    (∃ tree, program draft (initial :: inner ++ [delimiter.closerChar]) = .ok tree) ↔
      IsBody inner := by
  rw [body, show cutSpan _ _ _ _ = _ from spans] at termed
  rw [isBody_iff, List.cons_append]
  cases read : content (program Draft.empty) inner with
  | ok value =>
      simp only [read] at termed
      have reads := program_term draft token termed
      rw [reads, program_end (by simp [Trivia])]
      simp
  | error offence =>
      simp only [read] at termed
      simp only [startsToken, Bool.and_eq_true, Bool.not_eq_true', bne_iff_ne] at token
      rw [program_eq, List.dropWhile_cons_of_neg (by simp [token])]
      simp [token, termed, mapFirst, Except.map]

theorem program_group (spans : SpansTo .paren inner) :
    (∃ tree, program Draft.empty ('(' :: inner ++ [')']) = .ok tree) ↔ IsBody inner :=
  program_enclosed .group spans (by decide) rfl

theorem program_block (spans : SpansTo .brace inner) :
    (∃ tree, program Draft.empty ('\x7b' :: inner ++ ['\x7d']) = .ok tree) ↔ IsBody inner :=
  program_enclosed .block spans (by decide) rfl

/-- A call of the name `f`. -/
theorem program_call (spans : SpansTo .paren inner) :
    (∃ tree, program Draft.empty ('f' :: '(' :: inner ++ [')']) = .ok tree) ↔ IsBody inner := by
  have single : Name ['f'] := .intro (by decide) (by simp)
  have named : term (program Draft.empty) none 'f' ('(' :: inner ++ [')']) =
      .ok (.name "f", '(' :: inner ++ [')']) :=
    primary_of_name (by decide) (name_of_name single rfl)
  rw [List.cons_append, program_term Draft.empty (by decide) named]
  exact program_enclosed (.call (.name "f")) spans (by decide) rfl

end Reading

end Focal.Syntax
