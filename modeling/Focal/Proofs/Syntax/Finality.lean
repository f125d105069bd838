import Focal.Proofs.Syntax.Completeness

/-!
# Readings that more text does not change

A reading goes through its text once from the left.  What it has come to without having seen the end
of the text is decided (`Decided`): it has stopped in front of some text, or at a character that
cannot stand where it does.  Every reading of a token is `Stable`, so what is decided stays the same
when more text follows.  A program is read to the end of its text, so only its errors can be
decided (`program_of_definite`).
-/

namespace Focal.Syntax

open Focal.Source Focal.Source.Cursor

/-- An error about a character that stands where it cannot, and not about a text that ends too
early. -/
inductive SyntaxErrorKind.Definite : SyntaxErrorKind → Prop
  | unexpectedCharacter (found : Char) (expected : Expectation) :
      Definite (.unexpectedCharacter found expected)
  | missingName (found : Char) : Definite (.missingName (some found))

/-- A run of characters that other ones follow does not depend on the text behind them. -/
theorem takeWhile_append_of_dropWhile {test : Char → Bool} {text behind : List Char} {found : Char}
    (restEq : text.dropWhile test = found :: behind) (more : List Char) :
    (text ++ more).takeWhile test = text.takeWhile test ∧
      (text ++ more).dropWhile test = found :: (behind ++ more) := by
  have textEq := List.takeWhile_append_dropWhile (p := test) (l := text)
  have passes : ∀ character ∈ text.takeWhile test, test character = true :=
    fun _ member => List.mem_takeWhile_imp member
  have stops : ((found :: behind) ++ more).head?.any test = false :=
    eq_false_of_dropWhile_eq_cons restEq
  rw [restEq] at textEq
  have split := takeWhile_append_of_stop passes stops
  rw [← List.append_assoc, textEq] at split
  exact split

namespace Reading

variable {α β : Type}

/-- A reading has come to something without having seen the end of its text. -/
def Decided : Except Offence (α × List Char) → Prop
  | .ok (_, rest) => rest ≠ []
  | .error offence => offence.kind.Definite

/-- What a reading comes to when more text follows. -/
def followedBy (more : List Char) :
    Except Offence (α × List Char) → Except Offence (α × List Char)
  | .ok (result, rest) => .ok (result, rest ++ more)
  | .error offence => .error (offence.before more)

/-- What is decided stays so when more text follows. -/
def Stable (read : List Char → Except Offence (α × List Char)) : Prop :=
  ∀ text more, Decided (read text) → read (text ++ more) = followedBy more (read text)

theorem decided_mapFirst_iff {read : Except Offence (α × List Char)} {change : α → β} :
    Decided (mapFirst change read) ↔ Decided read := by
  cases read <;> rfl

theorem followedBy_mapFirst (more : List Char) (read : Except Offence (α × List Char))
    (change : α → β) :
    followedBy more (mapFirst change read) = mapFirst change (followedBy more read) := by
  cases read <;> rfl

theorem Stable.mapFirst {read : List Char → Except Offence (α × List Char)} (stable : Stable read)
    (change : α → β) : Stable fun text => Reading.mapFirst change (read text) := by
  intro text more decided
  have same := stable text more (decided_mapFirst_iff.mp decided)
  simp only [same, followedBy_mapFirst]

theorem Stable.ite {test : Prop} [Decidable test]
    {yes no : List Char → Except Offence (α × List Char)} (stableYes : Stable yes)
    (stableNo : Stable no) : Stable fun text => if test then yes text else no text := by
  by_cases holds : test
  · simpa only [holds, if_true] using stableYes
  · simpa only [holds, if_false] using stableNo

/-- An offence at a character that has been seen does not depend on what follows it. -/
theorem stable_failExpecting (expected : Expectation) (initial : Char) :
    Stable fun text => (failExpecting expected (initial :: text) : Except Offence (α × List Char)) :=
  fun _ _ _ => rfl

/-! ## Tokens -/

theorem stable_string : Stable string := by
  intro text more decided
  cases closed : closeQuote false text with
  | none =>
      simp only [string, closed] at decided
      cases decided
  | some cut =>
      rcases cut with ⟨content, rest⟩
      have spells : Spells content (unescape false content) := by
        simpa using spells_of_closeQuote closed
      have closedThere := closeQuote_of_spells spells (rest ++ more)
      have textEq : text ++ more = content ++ '"' :: (rest ++ more) := by
        simp [eq_append_of_closeQuote closed]
      simp only [string, closed, textEq, closedThere]
      rfl

theorem stable_name (initial : Char) : Stable (name initial) := by
  intro text more decided
  cases restEq : text.dropWhile continuesName with
  | nil =>
      simp only [name, restEq] at decided
      exact absurd rfl decided
  | cons found behind =>
      obtain ⟨taken, left⟩ := takeWhile_append_of_dropWhile restEq more
      have endsEq : endsName (found :: (behind ++ more)) = endsName (found :: behind) := rfl
      simp only [name, taken, left, restEq, endsEq]
      split
      · rfl
      · rfl

/-! ## Numbers -/

theorem stable_integer (digits : List Char) : Stable (integer digits) := by
  intro rest more decided
  by_cases small : Decimal.digitsValue digits ≤ largestInt
  · simp only [integer, small, if_true]
    rfl
  · simp only [integer, small, if_false] at decided
    cases decided

theorem stable_fraction (whole : List Char) : Stable (fraction whole) := by
  intro beyond more decided
  cases beyond with
  | nil => cases decided
  | cons next beyond =>
      rw [List.cons_append]
      by_cases digit : next.isDigit = true
      · rw [fraction_of_digit digit] at decided ⊢
        rw [fraction_of_digit digit]
        cases restEq : (next :: beyond).dropWhile Char.isDigit with
        | nil =>
            rw [restEq] at decided
            exact absurd rfl decided
        | cons found behind =>
            obtain ⟨taken, left⟩ := takeWhile_append_of_dropWhile restEq more
            have endsEq : endsNumber (found :: (behind ++ more)) = endsNumber (found :: behind) := rfl
            rw [List.cons_append] at taken left
            simp only [taken, left, List.head?_cons, endsEq]
            by_cases closed : some found = some '.' ∨ endsNumber (found :: behind) = true
            · simp only [closed, if_true]
              rfl
            · simp only [closed, if_false]
              rfl
      · have endsEq : endsNumber (next :: (beyond ++ more)) = endsNumber (next :: beyond) := rfl
        simp only [fraction, List.head?_cons, Option.some.injEq, endsEq, List.takeWhile_cons, digit,
          Bool.false_eq_true, if_false, if_true] at decided ⊢
        by_cases second : next = '.'
        · simp only [second, if_true]
          rfl
        by_cases ended : endsNumber (next :: beyond) = true
        · simp only [second, ended, if_true, if_false] at decided
          cases decided
        · simp only [second, ended, if_false]
          rfl

theorem stable_number : Stable number := by
  intro text more decided
  cases restEq : text.dropWhile Char.isDigit with
  | nil =>
      have atEnd : number text = integer (text.takeWhile Char.isDigit) [] := by
        simp [number, restEq, endsNumber]
      rw [atEnd] at decided
      by_cases small : Decimal.digitsValue (text.takeWhile Char.isDigit) ≤ largestInt
      · simp only [integer, small, if_true] at decided
        exact absurd rfl decided
      · simp only [integer, small, if_false] at decided
        cases decided
  | cons found behind =>
      obtain ⟨taken, left⟩ := takeWhile_append_of_dropWhile restEq more
      by_cases pointed : found = '.'
      · simp only [number, taken, left, restEq, pointed, List.head?_cons, if_true,
          List.tail_cons] at decided ⊢
        cases behind with
        | nil => cases decided
        | cons next beyond =>
            have memberEq : startsMember (next :: (beyond ++ more)) =
                startsMember (next :: beyond) := rfl
            rw [List.cons_append, memberEq]
            by_cases member : startsMember (next :: beyond) = true
            · simp only [member, if_true] at decided ⊢
              exact stable_integer _ _ more decided
            · simp only [member, if_false, Bool.false_eq_true] at decided ⊢
              exact stable_fraction _ _ more decided
      · have endsEq : endsNumber (found :: (behind ++ more)) = endsNumber (found :: behind) := rfl
        simp only [number, taken, left, restEq, pointed, List.head?_cons, Option.some.injEq, if_false,
          endsEq] at decided ⊢
        by_cases ended : endsNumber (found :: behind) = true
        · simp only [ended, if_true] at decided ⊢
          exact stable_integer _ _ more decided
        · simp only [ended, if_false, Bool.false_eq_true]
          rfl

/-! ## Terms -/

theorem stable_body (readProgram : List Char → Except Offence Program) (delimiter : Delimiter) :
    Stable (body readProgram delimiter) := by
  intro text more decided
  cases cut : cutSpan delimiter .outside 0 text with
  | none =>
      simp only [body, cut] at decided
      cases decided
  | some found =>
      rcases found with ⟨inner, rest⟩
      simp only [body, cut, cutSpan_append more cut]
      cases content readProgram inner with
      | ok value => rfl
      | error offence => simp [followedBy, Offence.before]

theorem stable_member (target : Term) : Stable (member target) := by
  intro text more decided
  cases restEq : text.dropWhile isTrivia with
  | nil =>
      simp only [member, restEq] at decided
      cases decided
  | cons initial rest =>
      have left := (takeWhile_append_of_dropWhile restEq more).2
      simp only [member, restEq, left] at decided ⊢
      by_cases starts : startsName initial = true
      · simp only [starts, if_true] at decided ⊢
        exact (stable_name initial).mapFirst (Term.member target) rest more decided
      · simp only [starts, Bool.false_eq_true, if_false]
        rfl

theorem stable_primary (readProgram : List Char → Except Offence Program) (initial : Char) :
    Stable (primary readProgram initial) := by
  apply Stable.ite ((stable_body readProgram .paren).mapFirst Term.group)
  apply Stable.ite ((stable_body readProgram .brace).mapFirst Term.block)
  apply Stable.ite (stable_string.mapFirst Term.str)
  apply Stable.ite fun text => stable_number.mapFirst ofNumber (initial :: text)
  apply Stable.ite ((stable_name initial).mapFirst ofName)
  exact stable_failExpecting .value initial

theorem stable_trailer (readProgram : List Char → Except Offence Program) (target : Term)
    (initial : Char) : Stable (trailer readProgram target initial) := by
  apply Stable.ite ((stable_body readProgram .paren).mapFirst (Term.call target))
  apply Stable.ite (stable_member target)
  exact stable_failExpecting .trailer initial

theorem stable_term (readProgram : List Char → Except Offence Program) (begun : Option Term)
    (initial : Char) : Stable (term readProgram begun initial) := by
  cases begun with
  | none => exact stable_primary readProgram initial
  | some target => exact stable_trailer readProgram target initial

/-! ## Programs -/

/-- An error that is decided stays the same, wherever the text goes on. -/
theorem program_of_definite {draft : Draft} {text : List Char} {offence : Offence}
    (definite : offence.kind.Definite) (read : program draft text = .error offence)
    (more : List Char) : program draft (text ++ more) = .error (offence.before more) := by
  induction lengthEq : text.length using Nat.strong_induction_on generalizing draft text with
  | _ length ih =>
      rw [program_eq] at read ⊢
      cases restEq : text.dropWhile isTrivia with
      | nil =>
          rw [restEq] at read
          cases read
      | cons initial rest =>
          have left := (takeWhile_append_of_dropWhile restEq more).2
          have shorter : rest.length < length := by
            have suffix := (List.dropWhile_suffix isTrivia (l := text)).length_le
            rwa [restEq, lengthEq] at suffix
          rw [restEq] at read
          rw [left]
          simp only at read ⊢
          by_cases isComma : initial = ','
          · simp only [isComma, if_true] at read ⊢
            exact ih rest.length shorter read rfl
          by_cases isSemicolon : initial = ';'
          · simp only [isSemicolon, if_true] at read ⊢
            exact ih rest.length shorter read rfl
          simp only [isComma, isSemicolon, if_false] at read ⊢
          have stable := stable_term (program Draft.empty) draft.term initial rest more
          cases termEq : term (program Draft.empty) draft.term initial rest with
          | error found =>
              rw [termEq] at read stable
              obtain rfl := Except.error.inj read
              rw [stable definite]
              rfl
          | ok found =>
              rcases found with ⟨next, behind⟩
              have shorterBehind := (suffix_of_term termEq).length_le.trans_lt shorter
              rw [termEq] at read stable
              change program _ behind = _ at read
              -- At the end of the text there would be a program and no error.
              have nonempty : behind ≠ [] := by
                rintro rfl
                rw [program_eq] at read
                cases read
              rw [stable nonempty]
              exact ih behind.length shorterBehind read rfl

end Reading

end Focal.Syntax
