import Focal.Proofs.Decimal.Digits
import Focal.Proofs.Source.Positions
import Focal.Proofs.Syntax.Completeness
import Focal.Proofs.Syntax.Tokens

/-!
# Number literals

What stands behind the first digits of a number decides what it is: `NumberAt` has one case for each
continuation, with the number or error it comes to.  `readNumber` comes to exactly that from every
cursor in a source (`readNumber_exact`); it never goes behind the literal, counts no line, and only
an integer can be too large.
-/

namespace Focal.Syntax

open Focal.Source Focal.Source.Cursor
open Focal.Text (terminators isTerminator Whole terminators_append_of_inside)
open Reading (endsNumber startsMember)

/-! ## What follows the digits -/

/-- What a number comes to whose first digits are at a cursor, with a text behind them. -/
inductive NumberAt (cursor : Cursor) (digits : List Char) :
    List Char → Except Failure (Number × Cursor) → Prop
  | int {rest : List Char} {value : Int64} (ends : IntegerEnds rest)
      (valueEq : value.toInt = Decimal.numeral digits) :
      NumberAt cursor digits rest (.ok (.int value,
        { cursor with position := cursor.position + (encode digits).length }))
  | tooLarge {rest : List Char} (ends : IntegerEnds rest)
      (large : Int64.maxValue.toInt < Decimal.numeral digits) :
      NumberAt cursor digits rest (failAt cursor.line (.integerTooLarge (String.ofList digits)))
  | float {fraction behind : List Char} {value : Float} (run : Digits fraction)
      (ends : FractionEnds behind)
      (valueEq : Decimal.readFloat? (String.ofList (digits ++ '.' :: fraction)) = some value) :
      NumberAt cursor digits ('.' :: fraction ++ behind) (.ok (.float value,
        { cursor with position := cursor.position + (encode (digits ++ '.' :: fraction)).length }))
  | afterFraction {fraction behind : List Char} {found : Char} (run : Digits fraction)
      (notDigit : found.isDigit = false) (notEnd : ¬ FractionEnds (found :: behind)) :
      NumberAt cursor digits ('.' :: fraction ++ found :: behind)
        (failAt cursor.line (.unexpectedCharacter found .digitOrSeparator))
  | unfinished {beyond : List Char} (ends : endsNumber beyond = true) :
      NumberAt cursor digits ('.' :: beyond) (failAt cursor.line .unfinishedNumber)
  | secondPoint {beyond : List Char} :
      NumberAt cursor digits ('.' :: '.' :: beyond)
        (failAt cursor.line (.unexpectedCharacter '.' .digitOrMember))
  | afterPoint {behind : List Char} {found : Char} (notPoint : found ≠ '.')
      (notDigit : found.isDigit = false) (notMember : startsMember (found :: behind) = false)
      (notEnd : endsNumber (found :: behind) = false) :
      NumberAt cursor digits ('.' :: found :: behind)
        (failAt cursor.line (.unexpectedCharacter found .digit))
  | afterInteger {behind : List Char} {found : Char} (notPoint : found ≠ '.')
      (notDigit : found.isDigit = false) (notEnd : endsNumber (found :: behind) = false) :
      NumberAt cursor digits (found :: behind)
        (failAt cursor.line (.unexpectedCharacter found .digitOrSeparator))

/-! ## Numbers from any line -/

section Shifted

variable {α β : Type} (count : Nat)

/-- What a scan comes to where the lines have larger numbers. -/
def shifted (count : Nat) : Except Failure (α × Cursor) → Except Failure (α × Cursor)
  | .ok found => .ok (laterBehind count found)
  | .error (.invalid error) => .error (.invalid { error with line := error.line + count })
  | .error (.fault fault) => .error (.fault fault)

theorem eq_ok_of_shifted {scanned : Except Failure (α × Cursor)} {result : α} {after : Cursor}
    (shiftedEq : shifted count scanned = .ok (result, after.later count)) :
    scanned = .ok (result, after) := by
  cases scanned with
  | ok found =>
      obtain rfl : found = (result, after) :=
        laterBehind_injective count (Except.ok.inj shiftedEq)
      rfl
  | error failure => cases failure <;> cases shiftedEq

theorem eq_failAt_of_shifted {scanned : Except Failure (α × Cursor)} {line : Nat}
    {kind : SyntaxErrorKind} (shiftedEq : shifted count scanned = failAt (line + count) kind) :
    scanned = failAt line kind := by
  cases scanned with
  | ok found => cases shiftedEq
  | error failure =>
      cases failure with
      | fault fault => cases shiftedEq
      | invalid error =>
          obtain ⟨otherLine, otherKind⟩ := error
          simp only [shifted, failAt, Except.error.injEq, Failure.invalid.injEq,
            SyntaxError.mk.injEq, Nat.add_right_cancel_iff] at shiftedEq
          rw [failAt, shiftedEq.1, shiftedEq.2]

@[simp]
theorem shifted_failAt (line : Nat) (kind : SyntaxErrorKind) :
    shifted count (failAt line kind : Except Failure (α × Cursor)) = failAt (line + count) kind :=
  rfl

@[simp]
theorem shifted_pure (result : α) (after : Cursor) :
    shifted count (pure (result, after)) = pure (result, after.later count) :=
  rfl

@[simp]
theorem shifted_bind (scan : Except Fault β) (next : β → Except Failure (α × Cursor)) :
    shifted count (liftM scan >>= next) =
      liftM scan >>= fun found => shifted count (next found) := by
  cases scan <;> rfl

@[simp]
theorem liftM_map_bind {γ : Type} (scan : Except Fault β) (change : β → γ)
    (next : γ → Except Failure α) :
    (liftM (change <$> scan) >>= next) = liftM scan >>= fun found => next (change found) := by
  cases scan <;> rfl

@[simp]
theorem numberMayEnd_later (cursor : Cursor) :
    numberMayEnd (cursor.later count) = numberMayEnd cursor :=
  rfl

@[simp]
theorem shifted_readInt (line : Nat) (digits : String) (point : Cursor) :
    shifted count ((fun number => (number, point)) <$> readInt line digits) =
      (fun number => (number, point.later count)) <$> readInt (line + count) digits := by
  simp only [readInt]
  split <;> rfl

theorem readNumber_later (cursor : Cursor) :
    readNumber (cursor.later count) = shifted count (readNumber cursor) := by
  simp [readNumber, apply_ite (shifted count)]

end Shifted

/-! ## Readings -/

namespace Reading

variable {digits rest : List Char}

theorem startsMember_of_endsNumber (ends : endsNumber rest = true) : startsMember rest = false := by
  cases rest with
  | nil => rfl
  | cons character rest =>
      simp only [endsNumber, List.head?_cons, Option.all_some, Bool.or_eq_true, beq_iff_eq] at ends
      rw [startsMember, List.head?_cons, Option.any_some]
      rcases ends with (trivia | rfl) | rfl
      · rcases isTrivia_cases trivia with rfl | rfl | rfl | rfl <;> decide
      · decide
      · decide

theorem number_of_integerTooLarge (run : Digits digits) (ends : IntegerEnds rest)
    (large : largestInt < Decimal.digitsValue digits) :
    number (digits ++ rest) =
      .error ⟨.integerTooLarge (String.ofList digits), digits ++ rest⟩ := by
  rw [number_of_integerEnds run ends, integer, if_neg (Nat.not_le_of_lt large)]
  rfl

theorem number_of_afterInteger {found : Char} {behind : List Char} (run : Digits digits)
    (notPoint : found ≠ '.') (notDigit : found.isDigit = false)
    (notEnd : endsNumber (found :: behind) = false) :
    number (digits ++ found :: behind) =
      .error ⟨.unexpectedCharacter found .digitOrSeparator, found :: behind⟩ := by
  have left := (takeWhile_append_of_stop run.2
    (show (found :: behind).head?.any Char.isDigit = false from notDigit)).2
  simp [number, left, notPoint, notEnd, failExpecting, fail]

theorem number_of_unfinished {beyond : List Char} (run : Digits digits)
    (ends : endsNumber beyond = true) :
    number (digits ++ '.' :: beyond) = .error ⟨.unfinishedNumber, digits ++ '.' :: beyond⟩ := by
  simp [number_of_pointed run, startsMember_of_endsNumber ends, fraction,
    head?_ne_point_of_endsNumber ends, ends, fail]

theorem number_of_secondPoint (run : Digits digits) (beyond : List Char) :
    number (digits ++ '.' :: '.' :: beyond) =
      .error ⟨.unexpectedCharacter '.' .digitOrMember, '.' :: beyond⟩ := by
  have noMember : startsMember ('.' :: beyond) = false := by
    rw [startsMember, List.head?_cons, Option.any_some]
    decide
  simp [number_of_pointed run, noMember, fraction, failExpecting, fail]

theorem number_of_afterPoint {found : Char} {behind : List Char} (run : Digits digits)
    (notPoint : found ≠ '.') (notDigit : found.isDigit = false)
    (notMember : startsMember (found :: behind) = false)
    (notEnd : endsNumber (found :: behind) = false) :
    number (digits ++ '.' :: found :: behind) =
      .error ⟨.unexpectedCharacter found .digit, found :: behind⟩ := by
  simp [number_of_pointed run, notMember, fraction, notPoint, notEnd, notDigit, failExpecting, fail]

theorem number_of_afterFraction {part behind : List Char} {found : Char} (run : Digits digits)
    (partRun : Digits part) (notDigit : found.isDigit = false)
    (notEnd : ¬ FractionEnds (found :: behind)) :
    number (digits ++ '.' :: (part ++ found :: behind)) =
      .error ⟨.unexpectedCharacter found .digitOrSeparator, found :: behind⟩ := by
  have left := (takeWhile_append_of_stop partRun.2
    (show (found :: behind).head?.any Char.isDigit = false from notDigit)).2
  obtain ⟨first, more, rfl⟩ := List.exists_cons_of_ne_nil partRun.1
  have digit := partRun.2 first List.mem_cons_self
  have notClosed : ¬ ((found :: behind).head? = some '.' ∨ endsNumber (found :: behind) = true) :=
    fun closed => notEnd closed.symm
  rw [List.cons_append] at left ⊢
  rw [number_of_pointed run, startsMember_of_isDigit digit, fraction_of_digit digit, left]
  simp only [Bool.false_eq_true, if_false, notClosed]
  rfl

end Reading

variable {cursor : Cursor} {before digits rest : List Char}

/-- A number is read as the characters behind the cursor say, up to the end of the literal or to the
offence, which is on the same line. -/
theorem readNumber_of_number {text read behind : List Char}
    (textEq : cursor.text = padded (before ++ text))
    (positionEq : cursor.position = (encode before).length) (whole : Whole before text)
    (splitEq : text = read ++ behind)
    (inside : ∀ character ∈ read, isTerminator character = false) :
    (∀ value, Reading.number text = .ok (value, behind) →
      readNumber cursor = .ok (value,
        { cursor with position := cursor.position + (encode read).length })) ∧
    ∀ kind, Reading.number text = .error ⟨kind, behind⟩ →
      readNumber cursor = failAt cursor.line kind := by
  -- `readNumber_follows` is about a cursor that has counted the lines in front of it.
  have laterEq := later_eq_between textEq positionEq
  have follows := readNumber_follows cursor.line (cursor.lastLine + terminators before) whole
  have lineEq := terminators_append_of_inside before inside
  rw [← laterEq, readNumber_later] at follows
  subst splitEq
  constructor
  · intro value number
    rw [number] at follows
    obtain ⟨other, otherEq, -, shiftedEq⟩ := follows
    obtain rfl := List.append_cancel_right otherEq
    apply eq_ok_of_shifted (terminators before)
    rw [shiftedEq]
    simp [between, later, textEq, positionEq, lineEq]
  · intro kind number
    rw [number] at follows
    obtain ⟨other, otherEq, -, shiftedEq⟩ := follows
    obtain rfl := List.append_cancel_right otherEq
    apply eq_failAt_of_shifted (terminators before)
    rw [shiftedEq, lineEq]
    rfl

theorem Digits.inside (run : Digits digits) :
    ∀ character ∈ digits, isTerminator character = false :=
  fun character member => (isDigit_inside (run.2 character member)).2

theorem Digits.inside_pointed (run : Digits digits)
    (inside : ∀ character ∈ rest, isTerminator character = false) :
    ∀ character ∈ digits ++ '.' :: rest, isTerminator character = false := by
  intro character member
  rcases List.mem_append.mp member with member | member
  · exact run.inside character member
  · rcases List.mem_cons.mp member with rfl | member
    · rfl
    · exact inside character member

theorem NumberAt.readNumber_eq {outcome : Except Failure (Number × Cursor)}
    (number : NumberAt cursor digits rest outcome) (run : Digits digits)
    (textEq : cursor.text = padded (before ++ (digits ++ rest)))
    (positionEq : cursor.position = (encode before).length) : readNumber cursor = outcome := by
  have whole : Whole before (digits ++ rest) := by
    obtain ⟨first, more, rfl⟩ := List.exists_cons_of_ne_nil run.1
    exact Whole.of_head_inside before (more ++ rest) (isDigit_inside (run.2 first (by simp))).2
  have insidePoint := run.inside_pointed (List.forall_mem_nil _)
  have transfer := @readNumber_of_number cursor before (digits ++ rest)
  cases number with
  | @int rest value ends toIntEq =>
      have bound := Int64.toInt_le value
      rw [toIntEq, Int64.toInt_maxValue, ← Decimal.digitsValue_eq] at bound
      have small : Decimal.digitsValue digits ≤ largestInt := by
        rw [largestInt]
        omega
      have valueEq : Int64.ofNat (Decimal.digitsValue digits) = value := by
        rw [← Int64.ofInt_eq_ofNat, Decimal.digitsValue_eq, ← toIntEq, Int64.ofInt_toInt]
      rw [← valueEq]
      exact (transfer textEq positionEq whole rfl run.inside).1 _
        (Reading.number_of_integer run small ends)
  | tooLarge ends large =>
      rw [Int64.toInt_maxValue, ← Decimal.digitsValue_eq] at large
      have largeValue : largestInt < Decimal.digitsValue digits := by
        rw [largestInt]
        omega
      exact (transfer textEq positionEq whole (List.nil_append _).symm (by simp)).2 _
        (Reading.number_of_integerTooLarge run ends largeValue)
  | @float fraction behind value part ends readEq =>
      have valueEq := readEq.symm.trans (Decimal.readFloat?_of_fraction run.1 run.2 part.2)
      rw [Option.some.inj valueEq]
      have splitEq :
          digits ++ ('.' :: fraction ++ behind) = digits ++ '.' :: fraction ++ behind := by
        simp
      have read := Reading.number_of_fraction run part ends
      rw [← splitEq] at read
      exact (transfer textEq positionEq whole splitEq (run.inside_pointed part.inside)).1 _ read
  | @afterFraction fraction behind found part notDigit notEnd =>
      exact (transfer textEq positionEq whole (by simp) (run.inside_pointed part.inside)).2 _
        (Reading.number_of_afterFraction run part notDigit notEnd)
  | unfinished ends =>
      exact (transfer textEq positionEq whole (List.nil_append _).symm (by simp)).2 _
        (Reading.number_of_unfinished run ends)
  | secondPoint =>
      exact (transfer textEq positionEq whole (by simp) insidePoint).2 _
        (Reading.number_of_secondPoint run _)
  | afterPoint notPoint notDigit notMember notEnd =>
      exact (transfer textEq positionEq whole (by simp) insidePoint).2 _
        (Reading.number_of_afterPoint run notPoint notDigit notMember notEnd)
  | afterInteger notPoint notDigit notEnd =>
      exact (transfer textEq positionEq whole rfl run.inside).2 _
        (Reading.number_of_afterInteger run notPoint notDigit notEnd)

/-- A fraction is not what may follow an integer. -/
theorem not_integerEnds_of_digits {part behind : List Char} (partRun : Digits part) :
    ¬ IntegerEnds ('.' :: part ++ behind) := by
  obtain ⟨first, more, rfl⟩ := List.exists_cons_of_ne_nil partRun.1
  have noMember := Reading.startsMember_of_isDigit (partRun.2 first List.mem_cons_self)
    (more ++ behind)
  rintro (ends | ⟨beyond, beyondEq, member⟩)
  · exact Reading.head?_ne_point_of_endsNumber ends rfl
  · obtain rfl := (List.cons.inj beyondEq).2
    exact absurd (noMember.symm.trans member) Bool.false_ne_true

/-- Digits in front of what may follow an integer are one, or too large for one. -/
theorem exists_numberAt_of_ends (cursor : Cursor) (digits : List Char) {rest : List Char}
    (ends : IntegerEnds rest) : ∃ outcome, NumberAt cursor digits rest outcome := by
  by_cases large : Int64.maxValue.toInt < Decimal.numeral digits
  · exact ⟨_, .tooLarge ends large⟩
  · have valueEq : (Int64.ofNat (Decimal.numeral digits)).toInt = Decimal.numeral digits := by
      rw [Int64.toInt_maxValue] at large
      exact Int64.toInt_ofNat_of_lt (by omega)
    exact ⟨_, .int ends valueEq⟩

/-- Digits, a point and more digits are a fraction, or another character follows them. -/
theorem exists_numberAt_of_fraction (cursor : Cursor) {part : List Char} (run : Digits digits)
    (partRun : Digits part) (maximal : rest.head?.any Char.isDigit = false) :
    ∃ outcome, NumberAt cursor digits ('.' :: part ++ rest) outcome := by
  by_cases ends : FractionEnds rest
  · exact ⟨_, .float partRun ends (Decimal.readFloat?_of_fraction run.1 run.2 partRun.2)⟩
  · cases rest with
    | nil => exact absurd (.inl rfl) ends
    | cons found behind => exact ⟨_, .afterFraction partRun (by simpa using maximal) ends⟩

/-- Every text behind the digits is one of the continuations. -/
theorem exists_numberAt (cursor : Cursor) (run : Digits digits)
    (maximal : rest.head?.any Char.isDigit = false) :
    ∃ outcome, NumberAt cursor digits rest outcome := by
  by_cases ends : IntegerEnds rest
  · exact exists_numberAt_of_ends cursor digits ends
  obtain ⟨notEnd, notAccess⟩ := not_or.mp ends
  cases rest with
  | nil => exact absurd rfl notEnd
  | cons found beyond =>
      by_cases pointed : found = '.'
      · subst pointed
        have notMember : startsMember beyond = false := by
          by_contra member
          exact notAccess ⟨beyond, rfl, by simpa using member⟩
        by_cases unfinished : endsNumber beyond = true
        · exact ⟨_, .unfinished unfinished⟩
        cases beyond with
        | nil => exact absurd rfl unfinished
        | cons next behind =>
            by_cases second : next = '.'
            · subst second
              exact ⟨_, .secondPoint⟩
            by_cases digit : next.isDigit = true
            · have partRun : Digits ((next :: behind).takeWhile Char.isDigit) :=
                ⟨by simp [digit], fun _ member => List.mem_takeWhile_imp member⟩
              have number := exists_numberAt_of_fraction cursor run partRun
                (any_head?_dropWhile Char.isDigit (next :: behind))
              rwa [List.cons_append, List.takeWhile_append_dropWhile] at number
            · exact ⟨_, .afterPoint second (by simpa using digit) notMember
                (by simpa using unfinished)⟩
      · exact ⟨_, .afterInteger pointed (by simpa using maximal) (by simpa using notEnd)⟩

/-- A number whose first digits are at a position of a source, with a text behind them that no digit
starts, comes to what this text says, and to nothing else.  A number with a fraction is never too
large, and every error is on the line of the cursor. -/
theorem readNumber_exact {source : String} (textEq : cursor.text = PaddedText.ofString source)
    (sourceEq : source.toList = before ++ (digits ++ rest))
    (positionEq : cursor.position = (encode before).length) (run : Digits digits)
    (maximal : rest.head?.any Char.isDigit = false) :
    (∀ outcome, readNumber cursor = outcome ↔ NumberAt cursor digits rest outcome) ∧
      (∀ part behind, rest = '.' :: part ++ behind → Digits part → ∀ line literal,
        readNumber cursor ≠ .error (.invalid { line, kind := .integerTooLarge literal })) ∧
      ∀ failure, readNumber cursor = .error failure →
        ∃ kind, failure = .invalid { line := cursor.line, kind } := by
  have paddedEq : cursor.text = padded (before ++ (digits ++ rest)) := by
    rw [textEq, ofString_eq_padded, sourceEq]
  obtain ⟨found, number⟩ := exists_numberAt cursor run maximal
  have readEq := number.readNumber_eq run paddedEq positionEq
  have exact : ∀ outcome, readNumber cursor = outcome ↔ NumberAt cursor digits rest outcome := by
    intro outcome
    constructor
    · rintro rfl
      rwa [readEq]
    · intro other
      exact other.readNumber_eq run paddedEq positionEq
  refine ⟨exact, ?_, ?_⟩
  · intro part behind restEq partRun line literal failed
    rw [failed] at readEq
    cases number with
    | tooLarge ends => exact not_integerEnds_of_digits partRun (restEq ▸ ends)
    | _ => cases readEq
  · intro failure failed
    rw [failed] at readEq
    cases number with
    | int | float => cases readEq
    | _ => exact ⟨_, Except.error.inj readEq⟩

/-- The least integer that is too large, behind a point and in front of a comma. -/
theorem readNumber_exact_tooLarge :
    let source := "1.9223372036854775808,"
    let cursor : Cursor := ⟨PaddedText.ofString source, 2, 3, 3⟩
    let digits := "9223372036854775808".toList
    source.toList = ['1', '.'] ++ (digits ++ [',']) ∧
      cursor.position = (encode ['1', '.']).length ∧ Digits digits ∧
      ([','] : List Char).head?.any Char.isDigit = false ∧
      readNumber cursor =
        .error (.invalid { line := 3, kind := .integerTooLarge "9223372036854775808" }) := by
  intro source cursor digits
  have sourceEq : source.toList = ['1', '.'] ++ (digits ++ [',']) := String.toList_ofList
  have run : Digits digits := ⟨by decide, List.all_eq_true.mp (by decide)⟩
  have large : Int64.maxValue.toInt < Decimal.numeral digits := by
    rw [← Decimal.digitsValue_eq]
    decide
  have number : NumberAt cursor digits [','] _ := .tooLarge (Or.inl rfl) large
  have literalEq : String.ofList digits = "9223372036854775808" := String.ofList_toList
  rw [literalEq] at number
  exact ⟨sourceEq, rfl, run, rfl,
    ((@readNumber_exact cursor _ _ _ source rfl sourceEq rfl run rfl).1 _).mpr number⟩

end Focal.Syntax
