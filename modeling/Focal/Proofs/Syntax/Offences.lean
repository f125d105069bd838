import Focal.Proofs.Source.Matching
import Focal.Proofs.Syntax.Soundness

/-!
# Where texts cannot be read

A text that is not read as a program is read up to some token that cannot stand where it does.
`Stops` says for every kind of error what that token is and where in it the offence lies.  The token
may be in a body inside the text; `Within` leads from the text to the innermost body around it, by
what had been read of each body in between.

Together they make a `Site`, and every text that cannot be read has one (`site_of_read`).  It is
outside every string of the whole text, since what is read in front of it is neutral.
-/

namespace Focal.Syntax

open Focal.Source Focal.Source.Cursor
open Reading (endsName endsNumber startsMember)

/-! ## What can be wrong -/

/-- What has been read of a token in front of a character that cannot stand there, and what would
have been right instead. -/
inductive Blocked (begun : Option Term) (found : Char) (behind : List Char) :
    List Char → Expectation → Prop
  | value (vacant : begun = none) (notDigit : found.isDigit = false)
      (notStart : startsName found = false) (other : found ∉ ['(', '\x7b', '"', ',', ';'])
      (token : isTrivia found = false) : Blocked begun found behind [] .value
  | trailer (term : begun.isSome = true) (other : found ∉ ['(', '.', ',', ';'])
      (token : isTrivia found = false) : Blocked begun found behind [] .trailer
  | nameCharacter {spelled : List Char} (vacant : begun = none) (name : Name spelled)
      (notMore : continuesName found = false) (notEnd : endsName (found :: behind) = false) :
      Blocked begun found behind spelled .nameCharacter
  | memberCharacter {trivia spelled : List Char} (term : begun.isSome = true)
      (between : Trivia trivia) (name : Name spelled) (notMore : continuesName found = false)
      (notEnd : endsName (found :: behind) = false) :
      Blocked begun found behind ('.' :: trivia ++ spelled) .nameCharacter
  | secondPoint {digits : List Char} (vacant : begun = none) (run : Digits digits)
      (point : found = '.') : Blocked begun found behind (digits ++ ['.']) .digitOrMember
  | digit {digits : List Char} (vacant : begun = none) (run : Digits digits)
      (notDigit : found.isDigit = false) (notMember : startsMember (found :: behind) = false)
      (notEnd : endsNumber (found :: behind) = false) (notPoint : found ≠ '.') :
      Blocked begun found behind (digits ++ ['.']) .digit
  | afterInteger {digits : List Char} (vacant : begun = none) (run : Digits digits)
      (notDigit : found.isDigit = false) (notEnd : endsNumber (found :: behind) = false)
      (notPoint : found ≠ '.') : Blocked begun found behind digits .digitOrSeparator
  | afterFraction {digits fraction : List Char} (vacant : begun = none) (run : Digits digits)
      (fractionRun : Digits fraction) (notDigit : found.isDigit = false)
      (notEnd : endsNumber (found :: behind) = false) (notPoint : found ≠ '.') :
      Blocked begun found behind (digits ++ '.' :: fraction) .digitOrSeparator

/-- A token cannot be read, behind the term that has been begun if there is one.  The offence lies
at the second text, which is the end of the first. -/
inductive Stops (begun : Option Term) : List Char → SyntaxErrorKind → List Char → Prop
  | unclosedDelimiter {delimiter : Delimiter} {text : List Char}
      (opens : delimiter = .brace → begun = none)
      (unmatched : Unmatched delimiter .outside 0 text) :
      Stops begun (delimiter.openerChar :: text) (.unclosedDelimiter delimiter.openerChar)
        (delimiter.openerChar :: text)
  | unclosedString {text : List Char} (vacant : begun = none)
      (unclosed : ∀ content decoded behind, text = content ++ '"' :: behind →
        ¬ Spells content decoded) : Stops begun ('"' :: text) .unclosedString ('"' :: text)
  | integerTooLarge {digits behind : List Char} (vacant : begun = none) (run : Digits digits)
      (ends : IntegerEnds behind) (large : largestInt < Decimal.digitsValue digits) :
      Stops begun (digits ++ behind) (.integerTooLarge (String.ofList digits)) (digits ++ behind)
  | unfinishedNumber {digits beyond : List Char} (vacant : begun = none) (run : Digits digits)
      (ends : endsNumber beyond = true) :
      Stops begun (digits ++ '.' :: beyond) .unfinishedNumber (digits ++ '.' :: beyond)
  | noName {trivia : List Char} (term : begun.isSome = true) (between : Trivia trivia) :
      Stops begun ('.' :: trivia) (.missingName none) []
  | notName {trivia behind : List Char} {found : Char} (term : begun.isSome = true)
      (between : Trivia trivia) (token : isTrivia found = false)
      (notStart : startsName found = false) :
      Stops begun ('.' :: trivia ++ found :: behind) (.missingName (some found)) (found :: behind)
  | unexpectedCharacter {read behind : List Char} {found : Char} {expected : Expectation}
      (blocked : Blocked begun found behind read expected) :
      Stops begun (read ++ found :: behind) (.unexpectedCharacter found expected)
        (found :: behind)

namespace Reading

variable {begun : Option Term} {text : List Char} {offence : Offence}

theorem exists_cons_of_not_ends {rest : List Char} (notEnd : ¬ endsNumber rest = true) :
    ∃ found behind, rest = found :: behind := by
  cases rest with
  | nil => simp [endsNumber] at notEnd
  | cons found behind => exact ⟨found, behind, rfl⟩

theorem stops_of_string (vacant : begun = none) (read : string text = .error offence) :
    Stops begun ('"' :: text) offence.kind offence.rest := by
  rw [string] at read
  split at read
  · cases read
  · rename_i unclosed
    obtain rfl := Except.error.inj read
    apply Stops.unclosedString vacant
    intro content decoded behind textEq spells
    rw [textEq, closeQuote_of_spells spells] at unclosed
    cases unclosed

theorem stops_of_integer {digits rest : List Char} (vacant : begun = none) (run : Digits digits)
    (ends : IntegerEnds rest) (read : integer digits rest = .error offence) :
    Stops begun (digits ++ rest) offence.kind offence.rest := by
  rw [integer] at read
  split at read
  · cases read
  · rename_i large
    obtain rfl := Except.error.inj read
    exact .integerTooLarge vacant run ends (by omega)

theorem stops_of_fraction {whole beyond : List Char} (vacant : begun = none) (run : Digits whole)
    (notMember : startsMember beyond = false)
    (read : fraction whole beyond = .error offence) :
    Stops begun (whole ++ '.' :: beyond) offence.kind offence.rest := by
  have beyondEq := List.takeWhile_append_dropWhile (p := Char.isDigit) (l := beyond)
  have allDigits : ∀ character ∈ beyond.takeWhile Char.isDigit, character.isDigit = true :=
    fun _ member => List.mem_takeWhile_imp member
  have notDigit := @eq_false_of_dropWhile_eq_cons Char.isDigit beyond
  rw [fraction] at read
  generalize beyond.takeWhile Char.isDigit = digits at *
  generalize beyond.dropWhile Char.isDigit = rest at *
  split at read
  · rename_i pointed
    obtain ⟨behind, rfl⟩ := List.head?_eq_some_iff.mp pointed
    obtain rfl := Except.error.inj read
    rw [List.append_cons]
    exact .unexpectedCharacter (.secondPoint vacant run rfl)
  rename_i notPoint
  split at read
  · rename_i ends
    obtain rfl := Except.error.inj read
    exact .unfinishedNumber vacant run ends
  rename_i notEnd
  split at read
  · rename_i empty
    obtain rfl : rest = beyond := by simpa [empty] using beyondEq
    obtain ⟨found, behind, rfl⟩ := exists_cons_of_not_ends notEnd
    obtain rfl := Except.error.inj read
    rw [List.append_cons]
    exact .unexpectedCharacter (.digit vacant run (notDigit rfl) notMember (by simpa using notEnd)
      (by simpa using notPoint))
  rename_i nonempty
  split at read
  · cases read
  · rename_i openEnd
    obtain ⟨restNotPoint, restNotEnd⟩ := not_or.mp openEnd
    obtain ⟨found, behind, rfl⟩ := exists_cons_of_not_ends restNotEnd
    obtain rfl := Except.error.inj read
    rw [← beyondEq]
    have stops := Stops.unexpectedCharacter (.afterFraction vacant run ⟨nonempty, allDigits⟩
      (notDigit rfl) (by simpa using restNotEnd) (by simpa using restNotPoint))
    simpa using stops

theorem stops_of_number {initial : Char} (vacant : begun = none) (digit : initial.isDigit = true)
    (read : number (initial :: text) = .error offence) :
    Stops begun (initial :: text) offence.kind offence.rest := by
  have textEq := List.takeWhile_append_dropWhile (p := Char.isDigit) (l := initial :: text)
  have run : Digits ((initial :: text).takeWhile Char.isDigit) :=
    ⟨by simp [digit], fun _ member => List.mem_takeWhile_imp member⟩
  have notDigit := @eq_false_of_dropWhile_eq_cons Char.isDigit (initial :: text)
  rw [number] at read
  generalize (initial :: text).takeWhile Char.isDigit = digits at *
  generalize (initial :: text).dropWhile Char.isDigit = rest at *
  rw [← textEq]
  split at read
  · rename_i pointed
    obtain ⟨beyond, rfl⟩ := List.head?_eq_some_iff.mp pointed
    split at read
    · rename_i member
      exact stops_of_integer vacant run (Or.inr ⟨beyond, rfl, member⟩) read
    · rename_i notMember
      exact stops_of_fraction vacant run (by simpa using notMember) read
  rename_i notPoint
  split at read
  · rename_i ends
    exact stops_of_integer vacant run (Or.inl ends) read
  · rename_i notEnd
    obtain ⟨found, behind, rfl⟩ := exists_cons_of_not_ends notEnd
    obtain rfl := Except.error.inj read
    exact .unexpectedCharacter (.afterInteger vacant run (notDigit rfl) (by simpa using notEnd)
      (by simpa using notPoint))

/-- A name that cannot be read is followed by a character that neither goes on with it nor ends
it. -/
theorem exists_of_name {initial : Char} (starts : startsName initial = true)
    (read : name initial text = .error offence) :
    ∃ spelled found behind, initial :: text = spelled ++ found :: behind ∧ Name spelled ∧
      continuesName found = false ∧ endsName (found :: behind) = false ∧
      offence = ⟨.unexpectedCharacter found .nameCharacter, found :: behind⟩ := by
  have textEq := List.takeWhile_append_dropWhile (p := continuesName) (l := text)
  simp only [name] at read
  split at read
  · cases read
  · rename_i notEnd
    cases restEq : text.dropWhile continuesName with
    | nil => simp [restEq, endsName] at notEnd
    | cons found behind =>
        have notMore := eq_false_of_dropWhile_eq_cons restEq
        rw [restEq] at read notEnd textEq
        obtain rfl := Except.error.inj read
        refine ⟨initial :: text.takeWhile continuesName, found, behind, by simp [textEq],
          .intro starts fun _ member => List.mem_takeWhile_imp member, notMore,
          by simpa using notEnd, rfl⟩

theorem stops_of_member {target : Term} (read : member target text = .error offence) :
    Stops (some target) ('.' :: text) offence.kind offence.rest := by
  obtain ⟨trivia, between, textEq, token⟩ := exists_trivia text
  rw [member] at read
  split at read
  · rename_i behindEq
    rw [behindEq, List.append_nil] at textEq
    obtain rfl := Except.error.inj read
    rw [textEq]
    exact .noName rfl between
  · rename_i found behind behindEq
    rw [behindEq] at textEq
    rw [textEq]
    split at read
    · rename_i starts
      obtain ⟨spelled, next, others, spelledEq, name, notMore, notEnd, rfl⟩ :=
        exists_of_name starts (mapFirst_eq_error_iff.mp read)
      rw [spelledEq, ← List.append_assoc]
      exact .unexpectedCharacter (.memberCharacter rfl between name notMore notEnd)
    · rename_i notStart
      obtain rfl := Except.error.inj read
      exact .notName rfl between (token _ _ behindEq) (by simpa using notStart)

/-! ## Bodies and terms -/

/-- An offence in a body whose opening delimiter stands in front of the text. -/
def Nested (readProgram : List Char → Except Offence Program) (delimiter : Delimiter)
    (text : List Char) (offence : Offence) : Prop :=
  ∃ inner behind deeper, FirstMatch delimiter .outside 0 text inner behind ∧
    readProgram inner = .error deeper ∧ deeper.before (delimiter.closerChar :: behind) = offence

variable {readProgram : List Char → Except Offence Program}

theorem stops_or_nested_of_body (delimiter : Delimiter) (opens : delimiter = .brace → begun = none)
    (read : body readProgram delimiter text = .error offence) :
    Stops begun (delimiter.openerChar :: text) offence.kind offence.rest ∨
      Nested readProgram delimiter text offence := by
  rw [body] at read
  split at read
  · rename_i noneFound
    obtain rfl := Except.error.inj read
    exact .inl (.unclosedDelimiter opens (unmatched_of_cutSpan noneFound))
  · rename_i inner behind cut
    split at read
    · cases read
    · rename_i deeper readContent
      rw [content] at readContent
      split at readContent
      · cases readContent
      · cases readInner : readProgram inner with
        | ok tree => simp [readInner] at readContent
        | error found =>
            obtain rfl : found = deeper := by simpa [readInner] using readContent
            exact .inr ⟨inner, behind, found, firstMatch_of_cutSpan cut, readInner,
              Except.error.inj read⟩

/-- A token that is not read stops the reader itself, or is a body with an offence inside. -/
theorem stops_or_nested_of_term {initial : Char} (token : isTrivia initial = false)
    (separator : initial ≠ ',' ∧ initial ≠ ';')
    (read : term readProgram begun initial text = .error offence) :
    Stops begun (initial :: text) offence.kind offence.rest ∨
      ∃ delimiter, initial = delimiter.openerChar ∧ (delimiter = .brace → begun = none) ∧
        Nested readProgram delimiter text offence := by
  cases begun with
  | none =>
      simp only [term, primary] at read
      split at read
      · rename_i isParen
        subst isParen
        have opens : Delimiter.paren = .brace → (none : Option Term) = none := fun _ => rfl
        exact (stops_or_nested_of_body .paren opens (mapFirst_eq_error_iff.mp read)).imp_right
          fun nested => ⟨.paren, rfl, opens, nested⟩
      rename_i notParen
      split at read
      · rename_i isBrace
        subst isBrace
        exact (stops_or_nested_of_body .brace (fun _ => rfl)
          (mapFirst_eq_error_iff.mp read)).imp_right
            fun nested => ⟨.brace, rfl, fun _ => rfl, nested⟩
      rename_i notBrace
      left
      split at read
      · rename_i isQuote
        subst isQuote
        exact stops_of_string rfl (mapFirst_eq_error_iff.mp read)
      rename_i notQuote
      split at read
      · rename_i digit
        exact stops_of_number rfl digit (mapFirst_eq_error_iff.mp read)
      rename_i notDigit
      split at read
      · rename_i starts
        obtain ⟨spelled, found, behind, textEq, name, notMore, notEnd, rfl⟩ :=
          exists_of_name starts (mapFirst_eq_error_iff.mp read)
        rw [textEq]
        exact .unexpectedCharacter (.nameCharacter rfl name notMore notEnd)
      · rename_i notStart
        obtain rfl := Except.error.inj read
        refine @Stops.unexpectedCharacter none [] text initial .value (.value rfl
          (by simpa using notDigit) (by simpa using notStart) ?_ token)
        simp [notParen, notBrace, notQuote, separator]
  | some target =>
      simp only [term, trailer] at read
      split at read
      · rename_i isParen
        subst isParen
        have opens : Delimiter.paren = .brace → some target = none := by simp
        exact (stops_or_nested_of_body .paren opens (mapFirst_eq_error_iff.mp read)).imp_right
          fun nested => ⟨.paren, rfl, opens, nested⟩
      rename_i notParen
      left
      split at read
      · rename_i isPoint
        subst isPoint
        exact stops_of_member read
      · rename_i notPoint
        obtain rfl := Except.error.inj read
        refine @Stops.unexpectedCharacter (some target) [] text initial .trailer
          (.trailer rfl ?_ token)
        simp [notParen, notPoint, separator]

end Reading

/-! ## What is read in front of an offence -/

theorem Neutral.outside {text : List Char} (neutral : Neutral text) :
    Quoting.outside.after text = .outside :=
  (firstMatch_of_cutSpan (neutral.cutSpan .paren [])).closable.1

theorem Begun.neutral {begun : Option Term} {text rest : List Char}
    (read : Begun begun text rest) : ∃ consumed, text = consumed ++ rest ∧ Neutral consumed :=
  read.segment.neutral

theorem SegmentStart.neutral {source rest : List Char} {slots : List Slot}
    {segments : List Segment} (start : SegmentStart source slots segments rest) :
    ∃ read, source = read ++ rest ∧ Neutral read := by
  have separated {text next : List Char} {separator : Char} (plain : isPlain separator = true)
      {segment : Segment} (before : ∃ read, source = read ++ text ∧ Neutral read)
      (derives : Derives (.segment segment) text (separator :: next)) :
      ∃ read, source = read ++ next ∧ Neutral read := by
    rcases before with ⟨read, rfl, neutral⟩
    obtain ⟨more, rfl, moreNeutral⟩ := derives.neutral
    exact ⟨_, by simp, (neutral.append moreNeutral).append (Neutral.singleton plain)⟩
  induction start with
  | first => exact ⟨[], rfl, Neutral.nil⟩
  | semicolon _ derives ih => exact separated (by decide) ih derives
  | comma _ derives ih => exact separated (by decide) ih derives

theorem Reached.neutral {source rest : List Char} {draft : Draft}
    (reached : Reached source draft rest) : ∃ read, source = read ++ rest ∧ Neutral read := by
  rcases reached with ⟨text, start, begun⟩
  obtain ⟨earlier, rfl, earlierNeutral⟩ := start.neutral
  obtain ⟨read, rfl, neutral⟩ := begun.neutral
  exact ⟨earlier ++ read, by simp, earlierNeutral.append neutral⟩

theorem Blocked.neutral {begun : Option Term} {found : Char} {behind read : List Char}
    {expected : Expectation} (blocked : Blocked begun found behind read expected) :
    Neutral read := by
  have point : Neutral ['.'] := Neutral.singleton (by decide)
  cases blocked with
  | value | trailer => exact Neutral.nil
  | nameCharacter _ name => exact name.neutral
  | memberCharacter _ between name => exact (point.append between.neutral).append name.neutral
  | secondPoint _ run | digit _ run => exact run.neutral.append point
  | afterInteger _ run => exact run.neutral
  | afterFraction _ run fractionRun =>
      exact run.neutral.append (point.append fractionRun.neutral)

theorem Stops.neutral {begun : Option Term} {token rest : List Char} {kind : SyntaxErrorKind}
    (stops : Stops begun token kind rest) : ∃ read, token = read ++ rest ∧ Neutral read := by
  have point : Neutral ['.'] := Neutral.singleton (by decide)
  cases stops with
  | noName _ between => exact ⟨_, (List.append_nil _).symm, point.append between.neutral⟩
  | notName _ between => exact ⟨_, rfl, point.append between.neutral⟩
  | unexpectedCharacter blocked => exact ⟨_, rfl, blocked.neutral⟩
  | _ => exact ⟨[], rfl, Neutral.nil⟩

/-! ## Sites -/

/-- A body stands in a text, perhaps in other bodies, each behind what the reader reads of the one
around it and in front of the delimiter that ends it. -/
inductive Within : List Char → List Char → List Char → List Char → Prop
  | here (text : List Char) : Within text [] text []
  | deeper {draft : Draft} {delimiter : Delimiter}
      {text read span inner behind earlier body later : List Char}
      (textEq : text = read ++ delimiter.openerChar :: span)
      (reached : Reached text draft (delimiter.openerChar :: span))
      (opens : delimiter = .brace → draft.term = none)
      (matched : FirstMatch delimiter .outside 0 span inner behind)
      (within : Within inner earlier body later) :
      Within text (read ++ delimiter.openerChar :: earlier) body
        (later ++ delimiter.closerChar :: behind)

/-- A place in a text at which it cannot be read. -/
structure Site (source : List Char) (kind : SyntaxErrorKind) where
  /-- The text in front of the innermost body around the place. -/
  earlier : List Char
  /-- The innermost body around the place. -/
  body : List Char
  /-- The text behind that body. -/
  later : List Char
  /-- What has been read of the body. -/
  draft : Draft
  /-- The body from the token on that cannot be read. -/
  token : List Char
  /-- The body in front of the place. -/
  before : List Char
  /-- The body from the place on. -/
  rest : List Char
  within : Within source earlier body later
  reached : Reached body draft token
  stops : Stops draft.term token kind rest
  body_eq : body = before ++ rest

namespace Site

variable {source : List Char} {kind : SyntaxErrorKind}

/-- All of the text in front of the place. -/
def front (site : Site source kind) : List Char :=
  site.earlier ++ site.before

/-- All of the text from the place on. -/
def behind (site : Site source kind) : List Char :=
  site.rest ++ site.later

/-- The same place in a text that has this one as a body. -/
def deeper {text read span inner behind : List Char} {draft : Draft} {delimiter : Delimiter}
    (textEq : text = read ++ delimiter.openerChar :: span)
    (reached : Reached text draft (delimiter.openerChar :: span))
    (opens : delimiter = .brace → draft.term = none)
    (matched : FirstMatch delimiter .outside 0 span inner behind) (site : Site inner kind) :
    Site text kind :=
  { site with
    earlier := read ++ delimiter.openerChar :: site.earlier
    later := site.later ++ delimiter.closerChar :: behind
    within := .deeper textEq reached opens matched site.within }

end Site

theorem Within.text_eq {text earlier body later : List Char}
    (within : Within text earlier body later) : text = earlier ++ body ++ later := by
  induction within with
  | here => simp
  | deeper textEq _ _ matched _ ih => rw [textEq, matched.text_eq, ih]; simp

theorem Within.outside {text earlier body later : List Char}
    (within : Within text earlier body later) : Quoting.outside.after earlier = .outside := by
  induction within with
  | here => rfl
  | @deeper _ delimiter _ _ span _ _ _ _ _ textEq reached _ _ _ ih =>
      obtain ⟨read, readEq, neutral⟩ := reached.neutral
      obtain rfl := List.append_cancel_right (textEq.symm.trans readEq)
      rw [Quoting.after_append, neutral.outside, Quoting.after_cons, (next_delimiter delimiter).1,
        ih]

/-- Behind a body stands nothing, or the delimiter that ends it. -/
theorem Within.later_eq {text earlier body later : List Char}
    (within : Within text earlier body later) :
    (earlier = [] ∧ later = []) ∨ ∃ front delimiter behind,
      earlier = front ++ [Delimiter.openerChar delimiter] ∧
        later = delimiter.closerChar :: behind := by
  induction within with
  | here => exact .inl ⟨rfl, rfl⟩
  | @deeper _ delimiter _ read _ _ behind _ _ _ _ _ _ _ _ ih =>
      right
      rcases ih with ⟨rfl, rfl⟩ | ⟨front, inner, more, rfl, rfl⟩
      · exact ⟨read, delimiter, behind, rfl, rfl⟩
      · exact ⟨read ++ delimiter.openerChar :: front, inner, more ++ delimiter.closerChar :: behind,
          by simp, by simp⟩

namespace Site

variable {source : List Char} {kind : SyntaxErrorKind}

theorem source_eq (site : Site source kind) : source = site.front ++ site.behind := by
  have sourceEq := site.within.text_eq
  rw [site.body_eq] at sourceEq
  simpa [front, behind] using sourceEq

/-- A place at which a text cannot be read is outside every string. -/
theorem outside (site : Site source kind) : Quoting.outside.after site.front = .outside := by
  obtain ⟨read, bodyEq, readNeutral⟩ := site.reached.neutral
  obtain ⟨more, tokenEq, moreNeutral⟩ := site.stops.neutral
  rw [tokenEq, ← List.append_assoc] at bodyEq
  have beforeEq := List.append_cancel_right (site.body_eq.symm.trans bodyEq)
  rw [front, beforeEq, Quoting.after_append, site.within.outside,
    (readNeutral.append moreNeutral).outside]

end Site

/-- A text that is read up to some point and cannot be read on has a place at which it cannot. -/
theorem Reached.exists_site {source text : List Char} {draft : Draft} {offence : Offence}
    (reached : Reached source draft text)
    (read : Reading.program draft text = .error offence) :
    ∃ site : Site source offence.kind, site.behind = offence.rest := by
  induction lengthEq : text.length using Nat.strong_induction_on
    generalizing source draft text offence with
  | _ length ih =>
      have turn := Reading.program_turn draft text
      generalize Reading.program draft text = result at turn read
      cases turn with
      | finish => cases read
      | @comma trivia rest around =>
          rw [List.length_append, List.length_cons] at lengthEq
          exact ih rest.length (by omega) (reached.past_trivia around).comma read rfl
      | @semicolon trivia rest around =>
          rw [List.length_append, List.length_cons] at lengthEq
          exact ih rest.length (by omega) (reached.past_trivia around).semicolon read rfl
      | @term trivia rest behind initial next around _ termed =>
          rw [List.length_append, List.length_cons] at lengthEq
          have sound : Reading.SoundBelow rest.length (Reading.program Draft.empty) :=
            fun inner tree _ readInner => derives_of_read readInner
          have shorter := (Reading.suffix_of_term termed).length_le
          have reachedNext := (reached.past_trivia around).term sound termed
          exact ih behind.length (by omega) reachedNext read rfl
      | @stop trivia rest initial found around token separator termed =>
          obtain rfl := Except.error.inj read
          have reachedToken := reached.past_trivia around
          obtain ⟨before, sourceEq, _⟩ := reachedToken.neutral
          rcases Reading.stops_or_nested_of_term token separator termed with
            stops | ⟨delimiter, rfl, opens, inner, behind, deeper, matched, readInner, rfl⟩
          · obtain ⟨more, tokenEq, _⟩ := stops.neutral
            let site : Site source found.kind :=
              { earlier := []
                body := source
                later := []
                draft
                token := initial :: rest
                before := before ++ more
                rest := found.rest
                within := .here source
                reached := reachedToken
                stops
                body_eq := by rw [sourceEq, tokenEq, List.append_assoc] }
            exact ⟨site, List.append_nil _⟩
          · have shorter : inner.length < length := by
              rw [← lengthEq, matched.text_eq]
              simp only [List.length_append, List.length_cons]
              omega
            obtain ⟨site, siteBehind⟩ := ih inner.length shorter (Reached.start inner) readInner rfl
            refine ⟨site.deeper sourceEq reachedToken opens matched, ?_⟩
            change site.rest ++ (site.later ++ _) = deeper.rest ++ _
            rw [← siteBehind, Site.behind, List.append_assoc]

theorem exists_site_of_read {text : List Char} {offence : Offence}
    (read : Reading.program Draft.empty text = .error offence) :
    ∃ site : Site text offence.kind, site.behind = offence.rest :=
  (Reached.start text).exists_site read

end Focal.Syntax
