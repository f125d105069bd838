import Focal.Proofs.Source.Spans

/-!
# Reading lists of characters

What the scanner does, said of the characters behind the cursor alone.  A reading gives its result
and the text behind it, or an `Offence`: what is wrong, and the text from there on.  Nothing here
knows of bytes, positions or lines.

A body is cut out of the text and read by the reader of programs, which is a parameter of everything
below `programWithin`.  Readings depend on it only for shorter texts (`term_congr`), and the text
behind a reading is a suffix of the one it was read from (`suffix_of_term`); so the limit of
`programWithin` does not matter once it is large enough, and `program_eq` unfolds `program` as if
there were none.
-/

namespace Focal.Syntax

open Focal.Source Focal.Source.Cursor

/-- What is wrong with a text, and the text from there on. -/
structure Offence where
  kind : SyntaxErrorKind
  rest : List Char
deriving DecidableEq

/-- An offence in a text that more text follows. -/
def Offence.before (offence : Offence) (more : List Char) : Offence :=
  { offence with rest := offence.rest ++ more }

theorem continuesName_of_startsName {character : Char} (starts : startsName character = true) :
    continuesName character = true := by
  simp only [startsName, continuesName, Bool.or_eq_true] at starts ⊢
  tauto

namespace Reading

variable {α : Type}

/-- End a reading with an offence. -/
def fail (kind : SyntaxErrorKind) (rest : List Char) : Except Offence α :=
  .error { kind, rest }

/-- End a reading at a character that cannot stand where it does. -/
def failExpecting (expected : Expectation) (rest : List Char) : Except Offence α :=
  fail (.unexpectedCharacter (rest.headD '\x00') expected) rest

/-! ## Strings -/

/-- The string whose opening quote stands in front of the text. -/
def string (text : List Char) : Except Offence (String × List Char) :=
  match closeQuote false text with
  | some (content, rest) => .ok (String.ofList (unescape false content), rest)
  | none => fail .unclosedString ('"' :: text)

/-! ## Numbers -/

/-- Whether a number may end in front of a text. -/
def endsNumber (text : List Char) : Bool :=
  text.head?.all fun character => isTrivia character || character == ',' || character == ';'

/-- Whether a text behind a point starts a member name, so that the number ends at the point. -/
def startsMember (text : List Char) : Bool :=
  text.head?.any fun character => Unicode.isAlphabetic character || character == '_'

/-- The integer that digits in front of a text write. -/
def integer (digits rest : List Char) : Except Offence (Number × List Char) :=
  if Decimal.digitsValue digits ≤ largestInt then
    .ok (.int (Int64.ofNat (Decimal.digitsValue digits)), rest)
  else fail (.integerTooLarge (String.ofList digits)) (digits ++ rest)

/-- The number with a point behind its first digits. -/
def fraction (whole beyond : List Char) : Except Offence (Number × List Char) :=
  let digits := beyond.takeWhile Char.isDigit
  let rest := beyond.dropWhile Char.isDigit
  if beyond.head? = some '.' then failExpecting .digitOrMember beyond
  else if endsNumber beyond then fail .unfinishedNumber (whole ++ '.' :: beyond)
  else if digits = [] then failExpecting .digit beyond
  else if rest.head? = some '.' ∨ endsNumber rest then
    .ok (readFraction (String.ofList whole) (String.ofList digits), rest)
  else failExpecting .digitOrSeparator rest

/-- The number that a text starts with. -/
def number (text : List Char) : Except Offence (Number × List Char) :=
  let digits := text.takeWhile Char.isDigit
  let rest := text.dropWhile Char.isDigit
  if rest.head? = some '.' then
    if startsMember rest.tail then integer digits rest
    else fraction digits rest.tail
  else if endsNumber rest then integer digits rest
  else failExpecting .digitOrSeparator rest

/-! ## Names -/

/-- Whether a name may end in front of a text. -/
def endsName (text : List Char) : Bool :=
  text.head?.all fun character => isTrivia character || character == ';' || character == '.' ||
    character == ',' || character == '('

/-- The name that starts with a character in front of a text. -/
def name (initial : Char) (text : List Char) : Except Offence (String × List Char) :=
  let rest := text.dropWhile continuesName
  if endsName rest then .ok (String.ofList (initial :: text.takeWhile continuesName), rest)
  else failExpecting .nameCharacter rest

/-! ## Bodies and terms -/

/-- White space alone. -/
def isWhite (text : List Char) : Bool :=
  text.all Unicode.isWhiteSpace

/-- What a body is, given the reader of programs. -/
def content (readProgram : List Char → Except Offence Program) (text : List Char) :
    Except Offence Body :=
  if isWhite text then .ok .blank else Body.program <$> readProgram text

/-- The body whose opening delimiter stands in front of the text. -/
def body (readProgram : List Char → Except Offence Program) (delimiter : Delimiter)
    (text : List Char) : Except Offence (Body × List Char) :=
  match cutSpan delimiter .outside 0 text with
  | none => fail (.unclosedDelimiter delimiter.openerChar) (delimiter.openerChar :: text)
  | some (inner, rest) =>
      match content readProgram inner with
      | .ok body => .ok (body, rest)
      | .error offence => .error (offence.before (delimiter.closerChar :: rest))

/-- The term that a number is. -/
def ofNumber : Number → Term
  | .int value => .int value
  | .float value => .float value

/-- The term that a name is at the start of a segment. -/
def ofName (name : String) : Term :=
  if name = "this" then .receiver else .name name

/-- The first part of a result, changed. -/
def mapFirst {β : Type} (change : α → β) (read : Except Offence (α × List Char)) :
    Except Offence (β × List Char) :=
  read.map fun (result, rest) => (change result, rest)

/-- The start of a term, which starts with a character in front of a text. -/
def primary (readProgram : List Char → Except Offence Program) (initial : Char)
    (text : List Char) : Except Offence (Term × List Char) :=
  if initial = '(' then mapFirst .group (body readProgram .paren text)
  else if initial = '\x7b' then mapFirst .block (body readProgram .brace text)
  else if initial = '"' then mapFirst .str (string text)
  else if initial.isDigit then mapFirst ofNumber (number (initial :: text))
  else if startsName initial then mapFirst ofName (name initial text)
  else failExpecting .value (initial :: text)

/-- The member access whose point stands in front of the text. -/
def member (target : Term) (text : List Char) : Except Offence (Term × List Char) :=
  match text.dropWhile isTrivia with
  | [] => fail (.missingName none) []
  | initial :: rest =>
      if startsName initial then mapFirst (.member target) (name initial rest)
      else fail (.missingName (some initial)) (initial :: rest)

/-- What is done with a term, which starts with a character in front of a text. -/
def trailer (readProgram : List Char → Except Offence Program) (target : Term) (initial : Char)
    (text : List Char) : Except Offence (Term × List Char) :=
  if initial = '(' then mapFirst (.call target) (body readProgram .paren text)
  else if initial = '.' then member target text
  else failExpecting .trailer (initial :: text)

/-- A term begun or gone on with, by a character in front of a text. -/
def term (readProgram : List Char → Except Offence Program) (begun : Option Term) (initial : Char)
    (text : List Char) : Except Offence (Term × List Char) :=
  match begun with
  | none => primary readProgram initial text
  | some target => trailer readProgram target initial text

/-! ## Programs -/

/-- Read on a text as a program of which a part has been read, in at most so many turns. -/
def programWithin : Nat → Draft → List Char → Except Offence Program
  | 0, draft, _ => .ok draft.finish
  | limit + 1, draft, text =>
      match text.dropWhile isTrivia with
      | [] => .ok draft.finish
      | initial :: rest =>
          if initial = ',' then programWithin limit draft.closeSlot rest
          else if initial = ';' then programWithin limit draft.closeSegment rest
          else
            match term (programWithin limit Draft.empty) draft.term initial rest with
            | .error offence => .error offence
            | .ok (next, behind) =>
                programWithin limit { draft with term := some next } behind

/-- Read on a text as a program of which a part has been read. -/
def program (draft : Draft) (text : List Char) : Except Offence Program :=
  programWithin (text.length + 1) draft text

/-! ## What stands behind a reading -/

theorem mapFirst_eq_ok_iff {β : Type} {change : α → β} {read : Except Offence (α × List Char)}
    {result : β} {rest : List Char} :
    mapFirst change read = .ok (result, rest) ↔
      ∃ value, read = .ok (value, rest) ∧ change value = result := by
  cases read with
  | error offence => simp [mapFirst, Except.map]
  | ok found =>
      rcases found with ⟨value, behind⟩
      constructor
      · intro mapped
        obtain ⟨rfl, rfl⟩ : change value = result ∧ behind = rest := by
          simpa [mapFirst, Except.map] using mapped
        exact ⟨value, rfl, rfl⟩
      · rintro ⟨_, readEq, rfl⟩
        obtain ⟨rfl, rfl⟩ : value = _ ∧ behind = rest := by simpa using readEq
        rfl

@[simp]
theorem mapFirst_eq_error_iff {β : Type} {change : α → β} {read : Except Offence (α × List Char)}
    {offence : Offence} :
    mapFirst change read = .error offence ↔ read = .error offence := by
  cases read <;> simp [mapFirst, Except.map]

theorem suffix_of_string {text rest : List Char} {value : String}
    (read : string text = .ok (value, rest)) : rest <:+ text := by
  rw [string] at read
  split at read
  · rename_i content behind closed
    obtain ⟨rfl, rfl⟩ : _ = value ∧ behind = rest := by simpa using read
    rw [eq_append_of_closeQuote closed]
    exact ⟨content ++ ['"'], by simp⟩
  · simp [fail] at read

theorem integer_eq_ok {digits rest behind : List Char} {value : Number}
    (read : integer digits rest = .ok (value, behind)) : behind = rest := by
  rw [integer] at read
  split at read
  · exact (Prod.mk.inj (Except.ok.inj read)).2.symm
  · simp [fail] at read

theorem fraction_eq_ok {whole beyond behind : List Char} {value : Number}
    (read : fraction whole beyond = .ok (value, behind)) :
    behind = beyond.dropWhile Char.isDigit := by
  rw [fraction] at read
  split at read
  · simp [failExpecting, fail] at read
  split at read
  · simp [fail] at read
  split at read
  · simp [failExpecting, fail] at read
  split at read
  · exact (Prod.mk.inj (Except.ok.inj read)).2.symm
  · simp [failExpecting, fail] at read

theorem suffix_of_number {initial : Char} {text rest : List Char} {value : Number}
    (digit : initial.isDigit = true) (read : number (initial :: text) = .ok (value, rest)) :
    rest <:+ text := by
  have behindDigits : text.dropWhile Char.isDigit <:+ text := List.dropWhile_suffix _
  have restEq : (initial :: text).dropWhile Char.isDigit = text.dropWhile Char.isDigit := by
    simp [digit]
  simp only [number, restEq] at read
  split at read
  · split at read
    · rwa [integer_eq_ok read]
    · rw [fraction_eq_ok read]
      exact (List.dropWhile_suffix _).trans ((List.tail_suffix _).trans behindDigits)
  · split at read
    · rwa [integer_eq_ok read]
    · simp [failExpecting, fail] at read

theorem suffix_of_name {initial : Char} {text rest : List Char} {spelled : String}
    (read : name initial text = .ok (spelled, rest)) : rest <:+ text := by
  simp only [name] at read
  split at read
  · obtain ⟨-, rfl⟩ : _ ∧ text.dropWhile continuesName = rest := by simpa using read
    exact List.dropWhile_suffix _
  · simp [failExpecting, fail] at read

theorem suffix_of_body {readProgram : List Char → Except Offence Program} {delimiter : Delimiter}
    {text rest : List Char} {value : Body}
    (read : body readProgram delimiter text = .ok (value, rest)) : rest <:+ text := by
  rw [body] at read
  split at read
  · simp [fail] at read
  · rename_i inner behind cut
    split at read
    · obtain ⟨-, rfl⟩ : _ ∧ behind = rest := by simpa using read
      rw [eq_append_of_cutSpan cut]
      exact ⟨inner ++ [delimiter.closerChar], by simp⟩
    · simp at read

theorem suffix_of_member {target next : Term} {text rest : List Char}
    (read : member target text = .ok (next, rest)) : rest <:+ text := by
  have behindTrivia : text.dropWhile isTrivia <:+ text := List.dropWhile_suffix _
  rw [member] at read
  split at read
  · simp [fail] at read
  · rename_i initial behind behindEq
    rw [behindEq] at behindTrivia
    split at read
    · obtain ⟨_, named, -⟩ := mapFirst_eq_ok_iff.mp read
      exact (suffix_of_name named).trans ((List.suffix_cons initial behind).trans behindTrivia)
    · simp [fail] at read

theorem suffix_of_term {readProgram : List Char → Except Offence Program} {begun : Option Term}
    {initial : Char} {text rest : List Char} {next : Term}
    (read : term readProgram begun initial text = .ok (next, rest)) : rest <:+ text := by
  cases begun with
  | none =>
      simp only [term, primary] at read
      split at read
      · obtain ⟨_, inside, -⟩ := mapFirst_eq_ok_iff.mp read
        exact suffix_of_body inside
      split at read
      · obtain ⟨_, inside, -⟩ := mapFirst_eq_ok_iff.mp read
        exact suffix_of_body inside
      split at read
      · obtain ⟨_, quoted, -⟩ := mapFirst_eq_ok_iff.mp read
        exact suffix_of_string quoted
      split at read
      · rename_i digit
        obtain ⟨_, numeral, -⟩ := mapFirst_eq_ok_iff.mp read
        exact suffix_of_number digit numeral
      split at read
      · obtain ⟨_, named, -⟩ := mapFirst_eq_ok_iff.mp read
        exact suffix_of_name named
      · simp [failExpecting, fail] at read
  | some target =>
      simp only [term, trailer] at read
      split at read
      · obtain ⟨_, inside, -⟩ := mapFirst_eq_ok_iff.mp read
        exact suffix_of_body inside
      split at read
      · exact suffix_of_member read
      · simp [failExpecting, fail] at read

/-! ## The limit -/

section Congruence

variable {first second : List Char → Except Offence Program} {text : List Char}

theorem body_congr (delimiter : Delimiter)
    (agree : ∀ inner, inner.length < text.length → first inner = second inner) :
    body first delimiter text = body second delimiter text := by
  rw [body, body]
  split
  · rfl
  · rename_i inner rest cut
    have shorter : inner.length < text.length := by
      rw [eq_append_of_cutSpan cut, List.length_append, List.length_cons]
      omega
    rw [content, content, agree inner shorter]

/-- A term is read in the same way by two readers of programs that agree on shorter texts. -/
theorem term_congr (begun : Option Term) (initial : Char)
    (agree : ∀ inner, inner.length < text.length → first inner = second inner) :
    term first begun initial text = term second begun initial text := by
  cases begun with
  | none => rw [term, term, primary, primary, body_congr .paren agree, body_congr .brace agree]
  | some target => rw [term, term, trailer, trailer, body_congr .paren agree]

end Congruence

theorem programWithin_congr {limit other : Nat} (draft : Draft) (text : List Char)
    (below : text.length < limit) (belowOther : text.length < other) :
    programWithin limit draft text = programWithin other draft text := by
  induction limit generalizing other draft text with
  | zero => exact absurd below (Nat.not_lt_zero _)
  | succ limit ih =>
      obtain _ | other := other
      · exact absurd belowOther (Nat.not_lt_zero _)
      simp only [programWithin]
      have behindTrivia := (List.dropWhile_suffix isTrivia (l := text)).length_le
      split
      · rfl
      · rename_i initial rest restEq
        rw [restEq, List.length_cons] at behindTrivia
        have termed : term (programWithin limit Draft.empty) draft.term initial rest =
            term (programWithin other Draft.empty) draft.term initial rest :=
          term_congr draft.term initial fun inner shorter => ih _ inner (by omega) (by omega)
        have within : ∀ next behind, behind.length ≤ rest.length →
            programWithin limit next behind = programWithin other next behind :=
          fun next behind le => ih next behind (by omega) (by omega)
        rw [within _ rest le_rfl, within _ rest le_rfl, termed]
        cases read : term (programWithin other Draft.empty) draft.term initial rest with
        | error offence => rfl
        | ok found =>
            rcases found with ⟨next, behind⟩
            simp only [within { draft with term := some next } behind
              (suffix_of_term read).length_le]

/-- One separator, one primary or one trailer is read, and then the rest. -/
theorem program_eq (draft : Draft) (text : List Char) :
    program draft text =
      match text.dropWhile isTrivia with
      | [] => .ok draft.finish
      | initial :: rest =>
          if initial = ',' then program draft.closeSlot rest
          else if initial = ';' then program draft.closeSegment rest
          else
            match term (program Draft.empty) draft.term initial rest with
            | .error offence => .error offence
            | .ok (next, behind) => program { draft with term := some next } behind := by
  have behindTrivia := (List.dropWhile_suffix isTrivia (l := text)).length_le
  rw [program, programWithin]
  split
  · rfl
  · rename_i initial rest restEq
    rw [restEq, List.length_cons] at behindTrivia
    have within : ∀ next other, other.length ≤ rest.length →
        programWithin text.length next other = program next other := fun next other le =>
      programWithin_congr next other (by omega) (by omega)
    rw [within _ rest le_rfl, within _ rest le_rfl,
      term_congr draft.term initial fun inner shorter => within Draft.empty inner shorter.le]
    cases read : term (program Draft.empty) draft.term initial rest with
    | error offence => rfl
    | ok found =>
        rcases found with ⟨next, behind⟩
        simp only [within { draft with term := some next } behind (suffix_of_term read).length_le]

end Reading

end Focal.Syntax
