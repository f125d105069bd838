import Focal.Proofs.Syntax.Grammar

/-!
# Derivable texts are read

A text that derives a program is read as that program (`Derives.read`).  Inside a program a
derivation of a phrase takes the reader from the draft in front of the phrase to the draft behind
it; `Phrase.Reads` says for each sort of phrase what that comes to.  Two derivations of one text
are read to the same program, so the grammar is unambiguous (`Derives.unique`).
-/

namespace Focal.Syntax

open Focal.Source Focal.Source.Cursor
open Reading (endsName endsNumber)

/-! ## Where runs of characters end -/

theorem takeWhile_append_of_stop {test : Char → Bool} {run rest : List Char}
    (passes : ∀ character ∈ run, test character = true) (stops : rest.head?.any test = false) :
    (run ++ rest).takeWhile test = run ∧ (run ++ rest).dropWhile test = rest := by
  rw [List.takeWhile_append_of_pos passes, List.dropWhile_append_of_pos passes]
  cases rest <;> simp_all

theorem isTrivia_cases {character : Char} (trivia : isTrivia character = true) :
    character = ' ' ∨ character = '\t' ∨ character = '\n' ∨ character = '\r' := by
  simpa [isTrivia, Cursor.isBlank, Text.isTerminator, or_assoc] using trivia

theorem stops_of_endsNumber {rest : List Char} (ends : endsNumber rest = true) :
    rest.head?.any Char.isDigit = false := by
  cases rest with
  | nil => rfl
  | cons character rest =>
      simp only [endsNumber, List.head?_cons, Option.all_some, Bool.or_eq_true, beq_iff_eq] at ends
      rw [List.head?_cons, Option.any_some]
      rcases ends with (trivia | rfl) | rfl
      · rcases isTrivia_cases trivia with rfl | rfl | rfl | rfl <;> decide
      · decide
      · decide

theorem stops_of_endsName {rest : List Char} (ends : endsName rest = true) :
    rest.head?.any continuesName = false := by
  cases rest with
  | nil => rfl
  | cons character rest =>
      simp only [endsName, List.head?_cons, Option.all_some, Bool.or_eq_true, beq_iff_eq] at ends
      rw [List.head?_cons, Option.any_some]
      rcases ends with (((trivia | rfl) | rfl) | rfl) | rfl
      · rcases isTrivia_cases trivia with rfl | rfl | rfl | rfl <;> decide
      · decide
      · decide
      · decide
      · decide

/-- A letter, an underscore or a dollar sign is no digit. -/
theorem startsName_of_isDigit {character : Char} (digit : character.isDigit = true) :
    startsName character = false := by
  have small : character.toNat < 0x41 := by
    have range : 48 ≤ character.val.toNat ∧ character.val.toNat ≤ 57 := by
      simpa [Char.isDigit, UInt32.le_iff_toNat_le] using digit
    have toNatEq : character.toNat = character.val.toNat := rfl
    omega
  have firstRange : Unicode.isAlphabetic character =
      if character.toNat < 0x41 then false
      else if character.toNat ≤ 0x5A then true
      else Unicode.Ranges.contains Unicode.alphabetic.tail character.toNat := rfl
  have differ : character ≠ '_' ∧ character ≠ '$' := by
    constructor <;> rintro rfl <;> exact absurd digit (by decide)
  simp [startsName, firstRange, small, differ]

theorem isTrivia_of_startsName {character : Char} (starts : startsName character = true) :
    isTrivia character = false := by
  cases trivia : isTrivia character with
  | false => rfl
  | true =>
      rcases isTrivia_cases trivia with rfl | rfl | rfl | rfl <;> exact absurd starts (by decide)

/-! ## Tokens -/

namespace Reading

theorem string_of_spells {content text : List Char} (spells : Spells content text)
    (rest : List Char) :
    string (content ++ '"' :: rest) = .ok (String.ofList text, rest) := by
  rw [string, closeQuote_of_spells spells]
  simp [unescape_of_spells spells]

theorem head?_ne_point_of_endsNumber {rest : List Char} (ends : endsNumber rest = true) :
    rest.head? ≠ some '.' := by
  intro headEq
  obtain ⟨beyond, rfl⟩ := List.head?_eq_some_iff.mp headEq
  exact absurd (show false = true from ends) Bool.false_ne_true

/-- What a number comes to with a point behind its first digits. -/
theorem number_of_pointed {digits : List Char} (run : Digits digits) (beyond : List Char) :
    number (digits ++ '.' :: beyond) =
      if startsMember beyond then integer digits ('.' :: beyond) else fraction digits beyond := by
  obtain ⟨taken, left⟩ := takeWhile_append_of_stop run.2
    (show ('.' :: beyond).head?.any Char.isDigit = false from rfl)
  simp [number, taken, left]

/-- Digits in front of what may follow an integer are one. -/
theorem number_of_integerEnds {digits rest : List Char} (run : Digits digits)
    (ends : IntegerEnds rest) : number (digits ++ rest) = integer digits rest := by
  rcases ends with ends | ⟨beyond, rfl, member⟩
  · obtain ⟨taken, left⟩ := takeWhile_append_of_stop run.2 (stops_of_endsNumber ends)
    simp [number, taken, left, head?_ne_point_of_endsNumber ends, ends]
  · rw [number_of_pointed run, if_pos member]

theorem number_of_integer {digits rest : List Char} (run : Digits digits)
    (small : Decimal.digitsValue digits ≤ largestInt) (ends : IntegerEnds rest) :
    number (digits ++ rest) = .ok (.int (Int64.ofNat (Decimal.digitsValue digits)), rest) := by
  rw [number_of_integerEnds run ends, integer, if_pos small]

/-- A digit starts no member name. -/
theorem startsMember_of_isDigit {digit : Char} (isDigit : digit.isDigit = true)
    (rest : List Char) : startsMember (digit :: rest) = false := by
  have noStart := startsName_of_isDigit isDigit
  simp only [startsName, Bool.or_eq_false_iff] at noStart
  simp [startsMember, noStart]

/-- Digits behind a point belong to a fraction. -/
theorem fraction_of_digit {digit : Char} (isDigit : digit.isDigit = true)
    (whole beyond : List Char) :
    fraction whole (digit :: beyond) =
      let rest := (digit :: beyond).dropWhile Char.isDigit
      if rest.head? = some '.' ∨ endsNumber rest = true then
        .ok (readFraction (String.ofList whole)
          (String.ofList ((digit :: beyond).takeWhile Char.isDigit)), rest)
      else failExpecting .digitOrSeparator rest := by
  have notPoint : digit ≠ '.' := by
    rintro rfl
    exact absurd isDigit (by decide)
  have noEnd : endsNumber (digit :: beyond) = false := by
    cases ended : endsNumber (digit :: beyond) with
    | false => rfl
    | true => simpa [isDigit] using stops_of_endsNumber ended
  have nonempty : (digit :: beyond).takeWhile Char.isDigit ≠ [] := by simp [isDigit]
  simp only [fraction, List.head?_cons, Option.some.injEq, notPoint, noEnd, nonempty, if_false,
    Bool.false_eq_true]

theorem number_of_fraction {whole fraction rest : List Char} (wholeRun : Digits whole)
    (fractionRun : Digits fraction) (ends : FractionEnds rest) :
    number (whole ++ '.' :: fraction ++ rest) =
      .ok (.float (Decimal.nearest (Decimal.digitsValue (whole ++ fraction)) (-fraction.length)),
        rest) := by
  have stops : rest.head?.any Char.isDigit = false := by
    rcases ends with ends | headEq
    · exact stops_of_endsNumber ends
    · rw [headEq]
      decide
  obtain ⟨taken, left⟩ := takeWhile_append_of_stop fractionRun.2 stops
  obtain ⟨first, more, rfl⟩ := List.exists_cons_of_ne_nil fractionRun.1
  have digit := fractionRun.2 first List.mem_cons_self
  have closed : rest.head? = some '.' ∨ endsNumber rest = true := ends.symm
  rw [List.cons_append] at taken left
  rw [List.append_assoc, List.cons_append, List.cons_append, number_of_pointed wholeRun,
    startsMember_of_isDigit digit, fraction_of_digit digit, taken, left]
  simp [closed, readFraction, Int.add_comm]

theorem name_of_name {initial : Char} {more rest : List Char} (spelled : Name (initial :: more))
    (ends : endsName rest = true) :
    name initial (more ++ rest) = .ok (String.ofList (initial :: more), rest) := by
  cases spelled with
  | intro starts continues =>
      obtain ⟨taken, left⟩ := takeWhile_append_of_stop continues (stops_of_endsName ends)
      simp [name, taken, left, ends]

/-! ## Turns -/

variable {trivia rest behind : List Char}

theorem dropWhile_trivia (around : Trivia trivia) (rest : List Char) :
    (trivia ++ rest).dropWhile isTrivia = rest.dropWhile isTrivia :=
  List.dropWhile_append_of_pos around

theorem program_end (around : Trivia trivia) (draft : Draft) :
    program draft trivia = .ok draft.finish := by
  have noneLeft : trivia.dropWhile isTrivia = [] := List.dropWhile_eq_nil_iff.mpr around
  rw [program_eq, noneLeft]

theorem program_trivia (around : Trivia trivia) (draft : Draft) :
    program draft (trivia ++ rest) = program draft rest := by
  rw [program_eq, dropWhile_trivia around, ← program_eq]

theorem program_comma (draft : Draft) (rest : List Char) :
    program draft (',' :: rest) = program draft.closeSlot rest := by
  have kept : (',' :: rest).dropWhile isTrivia = ',' :: rest := rfl
  rw [program_eq, kept]
  rfl

theorem program_semicolon (draft : Draft) (rest : List Char) :
    program draft (';' :: rest) = program draft.closeSegment rest := by
  have kept : (';' :: rest).dropWhile isTrivia = ';' :: rest := rfl
  rw [program_eq, kept]
  rfl

/-- A character that a term can start or go on with. -/
def startsToken (character : Char) : Bool :=
  !isTrivia character && character != ',' && character != ';'

theorem program_term (draft : Draft) {initial : Char} {next : Term}
    (token : startsToken initial = true)
    (read : term (program Draft.empty) draft.term initial rest = .ok (next, behind)) :
    program draft (initial :: rest) = program { draft with term := some next } behind := by
  simp only [startsToken, Bool.and_eq_true, Bool.not_eq_true', bne_iff_ne] at token
  rcases token with ⟨⟨notTrivia, notComma⟩, notSemicolon⟩
  have kept : (initial :: rest).dropWhile isTrivia = initial :: rest := by simp [notTrivia]
  rw [program_eq, kept]
  simp only [notComma, notSemicolon, if_false, read]

/-! ## Terms -/

variable {readProgram : List Char → Except Offence Program}

theorem primary_of_name {initial : Char} {text : List Char} {spelled : String}
    (starts : startsName initial = true) (read : name initial text = .ok (spelled, rest)) :
    primary readProgram initial text = .ok (ofName spelled, rest) := by
  have noDigit : initial.isDigit = false := by
    cases digit : initial.isDigit with
    | false => rfl
    | true => exact absurd starts (by simp [startsName_of_isDigit digit])
  have plain := isPlain_of_continuesName (continuesName_of_startsName starts)
  simp only [isPlain, Bool.and_eq_true, bne_iff_ne] at plain
  simp [primary, plain, noDigit, starts, read, mapFirst, Except.map]

theorem primary_of_number {initial : Char} {text : List Char} {value : Number}
    (digit : initial.isDigit = true) (read : number (initial :: text) = .ok (value, rest)) :
    primary readProgram initial text = .ok (ofNumber value, rest) := by
  have plain := isPlain_of_isDigit digit
  simp only [isPlain, Bool.and_eq_true, bne_iff_ne] at plain
  simp [primary, plain, digit, read, mapFirst, Except.map]

theorem body_of_neutral {inner : List Char} {value : Body} (neutral : Neutral inner)
    (delimiter : Delimiter) (rest : List Char) (read : content readProgram inner = .ok value) :
    body readProgram delimiter (inner ++ delimiter.closerChar :: rest) = .ok (value, rest) := by
  rw [body, neutral.cutSpan delimiter rest]
  simp only [read]

theorem member_of_name {target : Term} {trivia spelled : List Char} (within : Trivia trivia)
    (spelledName : Name spelled) (ends : endsName rest = true) :
    member target (trivia ++ spelled ++ rest) =
      .ok (.member target (String.ofList spelled), rest) := by
  cases spelledName with
  | @intro initial more starts continues =>
      have read := name_of_name (.intro starts continues) ends
      have notTrivia := isTrivia_of_startsName starts
      rw [member, List.append_assoc, dropWhile_trivia within, List.cons_append,
        List.dropWhile_cons_of_neg (by simp [notTrivia])]
      simp [starts, read, mapFirst, Except.map]

end Reading

/-! ## Phrases -/

/-- What the reader does with a text that derives a phrase in front of a rest, where the rest starts
with something that may follow the phrase. -/
def Phrase.Reads : Phrase → List Char → List Char → Prop
  | .term tree, text, rest =>
      endsName rest = true → ∀ draft : Draft, draft.term = none →
        Reading.program draft text = Reading.program { draft with term := some tree } rest
  | .segment tree, text, rest =>
      rest.head?.all (fun character => character == ',' || character == ';') = true →
        ∀ draft : Draft, draft.term = none → ∃ begun : Option Term, Segment.ofTerm? begun = tree ∧
          Reading.program draft text = Reading.program { draft with term := begun } rest
  | .slot tree, text, rest =>
      rest.head?.all (· == ',') = true → ∀ draft : Draft, draft.term = none → ∃ final : Draft,
        final.slots = draft.slots ∧ final.slot = tree.behind draft.segments ∧
          Reading.program draft text = Reading.program final rest
  | .program tree, text, rest =>
      rest = [] → ∀ draft : Draft, draft.term = none → draft.segments = [] →
        Reading.program draft text = .ok (tree.behind draft.slots)
  | .body tree, text, rest =>
      rest = [] → Reading.content (Reading.program Draft.empty) text = .ok tree

theorem startsToken_of_startsName {initial : Char} (starts : startsName initial = true) :
    Reading.startsToken initial = true := by
  simp only [Reading.startsToken, Bool.and_eq_true, Bool.not_eq_true', bne_iff_ne, and_assoc]
  refine ⟨?_, ?_, ?_⟩
  · exact isTrivia_of_startsName starts
  · rintro rfl
    exact absurd starts (by decide)
  · rintro rfl
    exact absurd starts (by decide)

theorem startsToken_of_isDigit {initial : Char} (digit : initial.isDigit = true) :
    Reading.startsToken initial = true := by
  have noEnd : endsNumber [initial] = false := by
    cases ended : endsNumber [initial] with
    | false => rfl
    | true => simpa [digit] using stops_of_endsNumber ended
  simp only [endsNumber, List.head?_cons, Option.all_some, Bool.or_eq_false_iff,
    beq_eq_false_iff_ne, ne_eq] at noEnd
  simp [Reading.startsToken, noEnd]

/-- A term that starts with a primary. -/
theorem reads_of_primary {initial : Char} {more rest : List Char} {tree : Term}
    (token : Reading.startsToken initial = true)
    (read : endsName rest = true →
      Reading.primary (Reading.program Draft.empty) initial more = .ok (tree, rest)) :
    (Phrase.term tree).Reads (initial :: more) rest := by
  intro ends draft vacant
  refine Reading.program_term draft token ?_
  rw [vacant]
  exact read ends

/-- A term with another trailer. -/
theorem reads_of_trailer {initial : Char} {text trivia more rest : List Char} {target tree : Term}
    (reads : (Phrase.term target).Reads text (trivia ++ initial :: more)) (between : Trivia trivia)
    (starts : initial = '(' ∨ initial = '.')
    (read : endsName rest = true →
      Reading.trailer (Reading.program Draft.empty) target initial more = .ok (tree, rest)) :
    (Phrase.term tree).Reads text rest := by
  intro ends draft vacant
  have token : Reading.startsToken initial = true := by
    rcases starts with rfl | rfl <;> decide
  have follows : endsName (trivia ++ initial :: more) = true := by
    cases trivia with
    | nil => rcases starts with rfl | rfl <;> rfl
    | cons character trivia => simp [endsName, between character List.mem_cons_self]
  rw [reads follows draft vacant, Reading.program_trivia between]
  exact Reading.program_term { draft with term := some target } token (read ends)

/-- A derivation of a phrase is what the reader reads. -/
theorem Derives.reads {phrase : Phrase} {text rest : List Char}
    (derives : Derives phrase text rest) : phrase.Reads text rest := by
  induction derives with
  | receiver =>
      have spelled : Name "this".toList := .intro (by decide) (List.all_eq_true.mp (by decide))
      exact reads_of_primary (by decide) fun ends =>
        Reading.primary_of_name (by decide) (Reading.name_of_name spelled ends)
  | name name other =>
      cases name with
      | @intro initial more starts continues =>
          have named : Reading.ofName (String.ofList (initial :: more)) =
              .name (String.ofList (initial :: more)) := by
            rw [Reading.ofName, if_neg]
            intro isThis
            exact other (by rw [← isThis, String.toList_ofList])
          rw [← named]
          exact reads_of_primary (startsToken_of_startsName starts) fun ends =>
            Reading.primary_of_name starts (Reading.name_of_name (.intro starts continues) ends)
  | @str content text rest spells =>
      apply reads_of_primary (by decide)
      intro _
      have read := Reading.string_of_spells spells rest
      simp [Reading.primary, read, Reading.mapFirst, Except.map]
  | int run small ends =>
      have read := Reading.number_of_integer run small ends
      obtain ⟨initial, more, rfl⟩ := List.exists_cons_of_ne_nil run.1
      have digit := run.2 initial List.mem_cons_self
      exact reads_of_primary (startsToken_of_isDigit digit) fun _ =>
        Reading.primary_of_number digit read
  | float wholeRun fractionRun ends =>
      have read := Reading.number_of_fraction wholeRun fractionRun ends
      obtain ⟨initial, more, rfl⟩ := List.exists_cons_of_ne_nil wholeRun.1
      have digit := wholeRun.2 initial List.mem_cons_self
      exact reads_of_primary (startsToken_of_isDigit digit) fun _ =>
        Reading.primary_of_number digit read
  | @group body inner rest inside ih =>
      apply reads_of_primary (by decide)
      intro _
      have read := Reading.body_of_neutral inside.neutral_body .paren rest (ih rfl)
      simp [Reading.primary, show Reading.body _ _ (inner ++ ')' :: rest) = _ from read,
        Reading.mapFirst, Except.map]
  | @block body inner rest inside ih =>
      apply reads_of_primary (by decide)
      intro _
      have read := Reading.body_of_neutral inside.neutral_body .brace rest (ih rfl)
      simp [Reading.primary, show Reading.body _ _ (inner ++ '\x7d' :: rest) = _ from read,
        Reading.mapFirst, Except.map]
  | @call target arguments text trivia inner rest called between inside calledIh insideIh =>
      rw [List.append_assoc, List.cons_append] at calledIh
      apply reads_of_trailer calledIh between (Or.inl rfl)
      intro _
      have read := Reading.body_of_neutral inside.neutral_body .paren rest (insideIh rfl)
      simp [Reading.trailer, show Reading.body _ _ (inner ++ ')' :: rest) = _ from read,
        Reading.mapFirst, Except.map]
  | @member target text before behind spelled rest accessed between within name ih =>
      rw [List.append_assoc, List.append_assoc, List.cons_append, ← List.append_assoc behind] at ih
      apply reads_of_trailer ih between (Or.inr rfl)
      intro ends
      have read := @Reading.member_of_name rest target behind spelled within name ends
      simp [Reading.trailer, ← read]
  | empty around =>
      intro _ draft vacant
      exact ⟨none, rfl, by rw [Reading.program_trivia around, ← vacant]⟩
  | @segment tree before text behind rest leading inside trailing ih =>
      intro ends draft vacant
      have follows : endsName (behind ++ rest) = true := by
        cases behind with
        | nil =>
            cases rest with
            | nil => rfl
            | cons character rest =>
                have separator : character = ',' ∨ character = ';' := by simpa using ends
                rcases separator with rfl | rfl <;> rfl
        | cons character behind => simp [endsName, trailing character List.mem_cons_self]
      refine ⟨some tree, rfl, ?_⟩
      rw [Reading.program_trivia leading, ih follows draft vacant, Reading.program_trivia trailing]
  | @lastSegment tree text rest only ih =>
      intro ends draft vacant
      obtain ⟨begun, rfl, read⟩ := ih (by cases rest <;> simp_all) draft vacant
      exact ⟨{ draft with term := begun }, rfl, rfl, read⟩
  | @semicolon tree others text middle rest first behind firstIh behindIh =>
      intro ends draft vacant
      obtain ⟨begun, rfl, read⟩ := firstIh rfl draft vacant
      obtain ⟨final, slotsEq, slotEq, readBehind⟩ :=
        behindIh ends ({ draft with term := begun } : Draft).closeSegment rfl
      refine ⟨final, slotsEq, slotEq, ?_⟩
      rw [read, Reading.program_semicolon, readBehind]
  | @lastSlot tree text rest only ih =>
      intro restEq draft vacant fresh
      subst restEq
      obtain ⟨final, slotsEq, slotEq, read⟩ := ih rfl draft vacant
      rw [read, Reading.program_end (by simp [Trivia]), Draft.finish, slotsEq, slotEq, fresh]
      rfl
  | @comma tree others text middle rest first behind firstIh behindIh =>
      intro restEq draft vacant fresh
      obtain ⟨final, slotsEq, slotEq, read⟩ := firstIh rfl draft vacant
      rw [read, Reading.program_comma, behindIh restEq final.closeSlot rfl rfl, Draft.closeSlot,
        slotsEq, slotEq, fresh]
      rfl
  | blank white =>
      intro _
      rw [Reading.content, if_pos white]
  | @body tree inner inked inside ih =>
      intro _
      have read := ih rfl Draft.empty rfl rfl
      rw [Reading.content, inked, read]
      rfl

/-- A text that derives a program is read as that program. -/
theorem Derives.read {tree : Program} {text : List Char}
    (derives : Derives (.program tree) text []) :
    Reading.program Draft.empty text = .ok tree :=
  derives.reads rfl Draft.empty rfl rfl

/-- The grammar is unambiguous. -/
theorem Derives.unique {first second : Program} {text : List Char}
    (firstDerives : Derives (.program first) text [])
    (secondDerives : Derives (.program second) text []) : first = second :=
  Except.ok.inj (firstDerives.read.symm.trans secondDerives.read)

end Focal.Syntax
