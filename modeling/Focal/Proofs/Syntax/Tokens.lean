import Focal.Proofs.Syntax.Reading

/-!
# The scanners of tokens read what stands behind the cursor

A scan from the cursor between two parts of a text follows a `Reading` of the second part: it comes
to the same result and leaves the cursor in front of the text behind that reading.  Where the
reading finds an offence, the scan fails with the same error, on the line that the terminators in
front of the offence make.  No scan is refused by the cursor.
-/

namespace Focal.Syntax

open Focal.Source Focal.Source.Cursor
open Focal.Text (terminators isTerminator isTerminator_eq_false_iff Whole terminators_append
  terminators_append_of_inside terminators_cons)

variable {α β : Type} (first last : Nat) {before text : List Char}

@[simp]
theorem liftM_ok (value : α) :
    (liftM (Except.ok value : Except Fault α) : Except Failure α) = .ok value :=
  rfl

/-! ## Scans that follow a reading -/

/-- A scan from the cursor between `before` and `text` follows a reading of `text`. -/
def Follows (before text : List Char) (scanned : Except Failure (α × Cursor))
    (reading : Except Offence (α × List Char)) : Prop :=
  match reading with
  | .ok (result, rest) =>
      ∃ read, text = read ++ rest ∧ Whole (before ++ read) rest ∧
        scanned = .ok (result, between first last (before ++ read) rest)
  | .error offence =>
      ∃ read, text = read ++ offence.rest ∧ Whole (before ++ read) offence.rest ∧
        scanned = .error (.invalid
          { line := first + terminators (before ++ read), kind := offence.kind })

namespace Follows

variable {first last}

theorem map {scanned : Except Failure (α × Cursor)} {reading : Except Offence (α × List Char)}
    (follows : Follows first last before text scanned reading) (change : α → β) :
    Follows first last before text
      (do
        let (result, after) ← scanned
        return (change result, after))
      (Reading.mapFirst change reading) := by
  cases reading with
  | error offence =>
      rcases follows with ⟨read, textEq, whole, rfl⟩
      exact ⟨read, textEq, whole, rfl⟩
  | ok found =>
      rcases found with ⟨result, rest⟩
      rcases follows with ⟨read, textEq, whole, rfl⟩
      exact ⟨read, textEq, whole, rfl⟩

/-- A scan from a cursor further on. -/
theorem further {read rest : List Char} {scanned : Except Failure (α × Cursor)}
    {reading : Except Offence (α × List Char)}
    (follows : Follows first last (before ++ read) rest scanned reading) :
    Follows first last before (read ++ rest) scanned reading := by
  cases reading with
  | error offence =>
      rcases follows with ⟨more, rfl, whole, rfl⟩
      exact ⟨read ++ more, by simp, by simpa using whole, by simp⟩
  | ok found =>
      rcases found with ⟨result, behind⟩
      rcases follows with ⟨more, rfl, whole, rfl⟩
      exact ⟨read ++ more, by simp, by simpa using whole, by simp⟩

variable (first last)

theorem ok {read rest : List Char} (result : α) (whole : Whole (before ++ read) rest) :
    Follows first last before (read ++ rest)
      (.ok (result, between first last (before ++ read) rest)) (.ok (result, rest)) :=
  ⟨read, rfl, whole, rfl⟩

/-- A failure on the line of the cursor follows an offence that no terminator stands before. -/
theorem fail {read rest : List Char} (kind : SyntaxErrorKind) (whole : Whole (before ++ read) rest)
    (inside : ∀ character ∈ read, isTerminator character = false) :
    Follows first last before (read ++ rest)
      (failAt (first + terminators before) kind : Except Failure (α × Cursor))
      (Reading.fail kind rest) := by
  refine ⟨read, rfl, whole, ?_⟩
  rw [terminators_append_of_inside before inside]
  rfl

end Follows

/-! ## Strings -/

theorem stringTurn_eq (start : Nat) :
    stringTurn start = quotedTurn (fun found => some <$> found.sliceFrom start) none := by
  funext state cursor
  rw [stringTurn, quotedTurn]
  congr 1
  funext sought
  rcases sought with ⟨delimiter, found⟩
  cases delimiter with
  | none => rfl
  | some byte => simp only [markTurn, bind_map_left]

/-- The content of a string is what stands in front of its closing quote. -/
theorem scanString_between {before text : List Char}
    (whole : Whole before text) (room : first + terminators (before ++ text) ≤ last) :
    scanString (between first last before text) =
      .ok (match closeQuote false text with
        | none => (none, between first last (before ++ text) [])
        | some (content, rest) =>
            (some (String.ofList content),
              between first last (before ++ content ++ ['"']) rest)) := by
  rw [scanString, stringTurn_eq, loop_quotedTurn first last _ _ whole room]
  cases closeQuote false text with
  | none => rfl
  | some cut =>
      rcases cut with ⟨content, rest⟩
      simp [sliceFrom_between, pure_eq_ok]

theorem readString_follows {before text : List Char}
    (room : first + terminators (before ++ '"' :: text) ≤ last) :
    Follows first last before ('"' :: text) (readString (between first last before ('"' :: text)))
      (Reading.string text) := by
  have opened := @skipByte_between first last '"' before text (by decide) rfl
  have whole : Whole (before ++ ['"']) text := Whole.of_last_ne _ _ (by decide)
  have scanned := scanString_between first last whole (by simpa using room)
  rw [readString, Reading.string, opened, liftM_ok, ok_bind, scanned, liftM_ok, ok_bind]
  cases closed : closeQuote false text with
  | none =>
      have wholeQuote : Whole (before ++ []) ('"' :: text) := Whole.of_head_ne _ _ (by decide)
      exact Follows.fail first last .unclosedString wholeQuote (by simp)
  | some cut =>
      rcases cut with ⟨content, rest⟩
      rw [eq_append_of_closeQuote closed]
      have wholeRest : Whole (before ++ ('"' :: content ++ ['"'])) rest := by
        rw [← List.append_assoc]
        exact Whole.of_last_ne _ _ (by decide)
      have read := Follows.ok first last (String.ofList (unescape false content)) wholeRest
      simpa [pure_eq_ok] using read

/-! ## Numbers -/

theorem digit_ne_terminator {character : Char} (digit : character.isDigit = true) :
    character ≠ '\n' ∧ character ≠ '\r' :=
  isTerminator_eq_false_iff.mp (isDigit_inside digit).2

/-- A cut behind digits is whole. -/
theorem whole_digits {digits rest : List Char} (whole : Whole before (digits ++ rest))
    (allDigits : ∀ character ∈ digits, character.isDigit = true) :
    Whole (before ++ digits) rest :=
  whole.advance fun member => (digit_ne_terminator (allDigits _ member)).2 rfl

theorem numberMayEnd_between (before text : List Char) :
    numberMayEnd (between first last before text) = .ok (Reading.endsNumber text) := by
  rw [numberMayEnd, current_between, ok_bind, isEnd_between, ok_bind, isBlankByte_leadByte,
    isLineEnd_leadByte, leadByte_beq ',' byteComma rfl (by decide),
    leadByte_beq ';' byteSemicolon rfl (by decide), pure_eq_ok]
  cases text with
  | nil => rfl
  | cons character rest => simp [Reading.endsNumber, isTrivia]

theorem skipDigits_between (before text : List Char) :
    (between first last before text).skipWhile isDigit =
      .ok (between first last (before ++ text.takeWhile Char.isDigit)
        (text.dropWhile Char.isDigit)) :=
  skipWhile_between first last isDigit_leadByte (fun _ => isDigit_inside) before text

theorem readInt_follows {before digits rest : List Char} (whole : Whole before (digits ++ rest))
    (allDigits : ∀ character ∈ digits, character.isDigit = true) :
    Follows first last before (digits ++ rest)
      (do
        let number ← readInt (first + terminators before) (String.ofList digits)
        return (number, between first last (before ++ digits) rest))
      (Reading.integer digits rest) := by
  rw [readInt, Reading.integer, String.toList_ofList]
  by_cases small : Decimal.digitsValue digits ≤ largestInt
  · simp only [small, if_true]
    exact Follows.ok first last _ (whole_digits whole allDigits)
  · simp only [small, if_false]
    have wholeStart : Whole (before ++ []) (digits ++ rest) := by simpa using whole
    exact Follows.fail first last _ wholeStart (by simp)

theorem startsMember_eq (text : List Char) :
    (Unicode.isAlphabetic (text.headD '\x00') || text.headD '\x00' == '_') =
      Reading.startsMember text := by
  cases text with
  | nil => decide
  | cons character rest => rfl

/-- The scan of a number behind the point that follows its first digits. -/
def scanFraction (line : Nat) (whole : String) (next : Char) (beyond : Cursor) :
    Except Failure (Number × Cursor) := do
  if next == '.' then failAt line (.unexpectedCharacter next .digitOrMember)
  else if ← numberMayEnd beyond then failAt line .unfinishedNumber
  else if !next.isDigit then failAt line (.unexpectedCharacter next .digit)
  else
    let after ← beyond.skipWhile isDigit
    let fraction ← after.sliceFrom beyond.position
    let byte ← after.current
    let ended ← numberMayEnd after
    if byte == byteDot || ended then return (readFraction whole fraction, after)
    else failAt line (.unexpectedCharacter (← after.char) .digitOrSeparator)

theorem scanFraction_follows {before digits beyond : List Char}
    (whole : Whole before (digits ++ '.' :: beyond))
    (allDigits : ∀ character ∈ digits, character.isDigit = true) :
    Follows first last before (digits ++ '.' :: beyond)
      (scanFraction (first + terminators before) (String.ofList digits) (beyond.headD '\x00')
        (between first last (before ++ (digits ++ ['.'])) beyond))
      (Reading.fraction digits beyond) := by
  have dotAt := leadByte_beq '.' byteDot rfl (by decide)
  have wholeBeyond : Whole (before ++ (digits ++ ['.'])) beyond := by
    rw [← List.append_assoc]
    exact Whole.of_last_ne _ _ (by decide)
  have insidePoint : ∀ character ∈ digits ++ ['.'], isTerminator character = false := by
    intro character member
    rcases List.mem_append.mp member with member | member
    · exact (isDigit_inside (allDigits _ member)).2
    · simp [List.mem_singleton.mp member, isTerminator]
  have textEq : digits ++ '.' :: beyond = digits ++ ['.'] ++ beyond := by simp
  have wholeStart : Whole (before ++ []) (digits ++ '.' :: beyond) := by simpa using whole
  have unfinished := Follows.fail first last (α := Number) .unfinishedNumber wholeStart (by simp)
  rw [scanFraction, numberMayEnd_between]
  cases beyond with
  | nil => simpa [Reading.fraction, Reading.endsNumber] using unfinished
  | cons next beyond =>
      simp only [List.headD_cons, beq_iff_eq, liftM_ok, ok_bind, Reading.fraction, List.head?_cons,
        Option.some.injEq, Reading.failExpecting]
      rw [textEq] at unfinished ⊢
      by_cases second : next = '.'
      · simpa only [second, if_true] using Follows.fail first last _ wholeBeyond insidePoint
      by_cases ended : Reading.endsNumber (next :: beyond) = true
      · simpa only [second, if_false, ended, if_true, List.nil_append] using unfinished
      by_cases digit : next.isDigit = true
      · have fractionDigits : ∀ character ∈ (next :: beyond).takeWhile Char.isDigit,
            character.isDigit = true := fun _ member => List.mem_takeWhile_imp member
        have nonempty : (next :: beyond).takeWhile Char.isDigit ≠ [] := by simp [digit]
        have beyondEq := List.takeWhile_append_dropWhile (p := Char.isDigit) (l := next :: beyond)
        simp only [second, if_false, ended, digit, Bool.not_true, Bool.false_eq_true,
          skipDigits_between, liftM_ok, ok_bind, position_between, sliceFrom_between,
          current_between, dotAt, numberMayEnd_between, char_between, nonempty]
        generalize (next :: beyond).takeWhile Char.isDigit = fraction at *
        generalize (next :: beyond).dropWhile Char.isDigit = rest at *
        rw [← beyondEq] at wholeBeyond ⊢
        have wholeRest : Whole (before ++ (digits ++ ['.'] ++ fraction)) rest := by
          simpa using whole_digits wholeBeyond fractionDigits
        have insideFraction : ∀ character ∈ digits ++ ['.'] ++ fraction,
            isTerminator character = false := by
          intro character member
          rcases List.mem_append.mp member with member | member
          · exact insidePoint _ member
          · exact (isDigit_inside (fractionDigits _ member)).2
        by_cases closed : rest.head? = some '.' ∨ Reading.endsNumber rest = true
        · have read := Follows.ok first last
            (readFraction (String.ofList digits) (String.ofList fraction)) wholeRest
          simpa [closed, pure_eq_ok] using read
        · simpa [closed] using Follows.fail first last _ wholeRest insideFraction
      · simpa [second, ended, digit] using Follows.fail first last _ wholeBeyond insidePoint

theorem readNumber_follows {before text : List Char} (whole : Whole before text) :
    Follows first last before text (readNumber (between first last before text))
      (Reading.number text) := by
  have dotAt := leadByte_beq '.' byteDot rfl (by decide)
  have allDigits : ∀ character ∈ text.takeWhile Char.isDigit, character.isDigit = true :=
    fun _ member => List.mem_takeWhile_imp member
  have textEq := List.takeWhile_append_dropWhile (p := Char.isDigit) (l := text)
  rw [readNumber, skipDigits_between, liftM_ok, ok_bind, line_between, position_between,
    sliceFrom_between, liftM_ok, ok_bind, current_between, liftM_ok, ok_bind, dotAt, Reading.number]
  generalize text.takeWhile Char.isDigit = digits at *
  generalize text.dropWhile Char.isDigit = rest at *
  subst textEq
  have integral := readInt_follows first last whole allDigits
  by_cases pointed : rest.head? = some '.'
  · obtain ⟨beyond, rfl⟩ := List.head?_eq_some_iff.mp pointed
    have stepped := @skipByte_between first last '.' (before ++ digits) beyond (by decide) rfl
    simp only [List.head?_cons, BEq.rfl, if_true, List.tail_cons, stepped, liftM_ok, ok_bind,
      char_between, startsMember_eq]
    by_cases membered : Reading.startsMember beyond = true
    · simpa only [membered, if_true] using integral
    · simp only [membered, Bool.false_eq_true, if_false, List.append_assoc]
      exact scanFraction_follows first last whole allDigits
  · have wholeRest := whole_digits whole allDigits
    have inside : ∀ character ∈ digits, isTerminator character = false :=
      fun _ member => (isDigit_inside (allDigits _ member)).2
    simp only [beq_iff_eq, pointed, if_false, numberMayEnd_between, liftM_ok, ok_bind]
    by_cases ended : Reading.endsNumber rest = true
    · simpa [ended] using integral
    · simpa [ended, Reading.failExpecting] using
        Follows.fail first last (.unexpectedCharacter (rest.headD '\x00') .digitOrSeparator)
          wholeRest inside

/-! ## Names -/

theorem nameMayEnd_between (before text : List Char) :
    nameMayEnd (between first last before text) = .ok (Reading.endsName text) := by
  rw [nameMayEnd, current_between, ok_bind, isEnd_between, ok_bind, isBlankByte_leadByte,
    isLineEnd_leadByte, leadByte_beq ';' byteSemicolon rfl (by decide),
    leadByte_beq '.' byteDot rfl (by decide), leadByte_beq ',' byteComma rfl (by decide),
    leadByte_beq '(' byteOpenParen rfl (by decide), pure_eq_ok]
  cases text with
  | nil => rfl
  | cons character rest => simp [Reading.endsName, isTrivia]

/-- A character of a name ends no line. -/
theorem continuesName_inside {character : Char} (continues : continuesName character = true) :
    isTerminator character = false := by
  rw [isTerminator_eq_false_iff]
  constructor <;> rintro rfl <;> exact absurd continues (by decide)

theorem skipName_between (before text : List Char) :
    skipName (between first last before text) =
      .ok (between first last (before ++ text.takeWhile continuesName)
        (text.dropWhile continuesName)) := by
  suffices looped : Cursor.loop .stalled nameTurn () (between first last before text) =
      .ok ((), between first last (before ++ text.takeWhile continuesName)
        (text.dropWhile continuesName)) by
    rw [skipName, looped]
    rfl
  induction text generalizing before with
  | nil =>
      have ends : continuesName '\x00' = false := by decide
      apply loop_of_stop
      simp [nameTurn, ends, pure_eq_ok]
  | cons character rest ih =>
      by_cases continues : continuesName character = true
      · have moved := skipChar_between first last before rest (continuesName_inside continues)
        have turned : nameTurn () (between first last before (character :: rest)) =
            .ok (.next () (between first last (before ++ [character]) rest)) := by
          simp [nameTurn, continues, moved, pure_eq_ok]
        rw [loop_of_next turned
          (remaining_between_lt first last (List.cons_ne_nil character [])), ih]
        simp [continues]
      · apply loop_of_stop
        simp [nameTurn, continues, pure_eq_ok]

theorem readName_follows {initial : Char} {before text : List Char}
    (starts : startsName initial = true) :
    Follows first last before (initial :: text)
      (readName (between first last before (initial :: text))) (Reading.name initial text) := by
  have continues := continuesName_of_startsName starts
  have moved := skipChar_between first last before text (continuesName_inside continues)
  have spelled : ∀ character ∈ initial :: text.takeWhile continuesName,
      continuesName character = true := by
    intro character member
    rcases List.mem_cons.mp member with rfl | member
    · exact continues
    · exact List.mem_takeWhile_imp member
  have textEq := List.takeWhile_append_dropWhile (p := continuesName) (l := text)
  rw [readName, moved, liftM_ok, ok_bind, skipName_between, liftM_ok, ok_bind, nameMayEnd_between,
    liftM_ok, ok_bind, Reading.name]
  generalize text.takeWhile continuesName = more at *
  generalize text.dropWhile continuesName = rest at *
  subst textEq
  have inside : ∀ character ∈ initial :: more, isTerminator character = false :=
    fun _ member => continuesName_inside (spelled _ member)
  have whole : Whole before (initial :: more ++ rest) := by
    refine Whole.of_head_ne before _ ?_
    rintro rfl
    exact absurd continues (by decide)
  have wholeRest : Whole (before ++ initial :: more) rest :=
    whole.advance fun member => absurd (inside _ member) (by decide)
  have sliced := @sliceFrom_between first last before (initial :: more) rest
  have initialMore : before ++ [initial] ++ more = before ++ initial :: more := by simp
  rw [initialMore]
  by_cases ended : Reading.endsName rest = true
  · have read := Follows.ok first last (String.ofList (initial :: more)) wholeRest
    simpa [ended, sliced, pure_eq_ok] using read
  · have failed := Follows.fail first last (α := String)
      (.unexpectedCharacter (rest.headD '\x00') .nameCharacter) wholeRest inside
    have lineEq := terminators_append_of_inside before inside
    simpa [ended, lineEq, Reading.failExpecting] using failed

end Focal.Syntax
