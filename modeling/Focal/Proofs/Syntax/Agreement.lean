import Focal.Proofs.Syntax.Tokens

/-!
# The scanner reads what stands behind the cursor

The scans of bodies, terms and programs follow their readings, as those of tokens do.  A body is
scanned as a text of its own, from the line on which it starts; `Settles` says that the scan of a
whole text follows its reading, and `read_settles` that every scan does, at every nesting depth.
-/

namespace Focal.Syntax

open Focal.Source Focal.Source.Cursor
open Focal.Text (terminators isTerminator Whole terminators_append terminators_append_of_inside
  terminators_cons)

variable (first last : Nat) {before text : List Char}

/-! ## Bodies -/

/-- The scan of a whole text that starts on a line follows a reading of the text. -/
def Settles (line : Nat) (text : List Char) (scanned : Except Failure Program)
    (reading : Except Offence Program) : Prop :=
  match reading with
  | .ok program => scanned = .ok program
  | .error offence =>
      ∃ read, text = read ++ offence.rest ∧ Whole read offence.rest ∧
        scanned = .error (.invalid { line := line + terminators read, kind := offence.kind })

/-- The scans of all texts of less than `bound` bytes follow a reader of programs. -/
def SettlesBelow (bound : Nat) (scanProgram : String → Nat → Except Failure Program)
    (readProgram : List Char → Except Offence Program) : Prop :=
  ∀ inner line, (encode inner).length < bound → line + terminators inner ≤ last →
    Settles line inner (scanProgram (String.ofList inner) line) (readProgram inner)

variable {bound : Nat} {scanProgram : String → Nat → Except Failure Program}
  {readProgram : List Char → Except Offence Program}

theorem isBlank_ofList (text : List Char) :
    isBlank (String.ofList text) = Reading.isWhite text := by
  simp [isBlank, Reading.isWhite]

/-- The lines of a text with an opening delimiter in it, at a cut behind that delimiter. -/
theorem terminators_opened (delimiter : Delimiter) (before : List Char) {part more : List Char}
    (whole : Whole part more) :
    terminators (before ++ delimiter.openerChar :: (part ++ more)) =
      terminators before + terminators part + terminators more := by
  have inside := (delimiter_inside delimiter).1
  rw [terminators_append (Whole.of_head_inside _ _ inside), terminators_cons _ inside,
    terminators_append whole, Nat.add_assoc]

theorem readBody_follows (settles : SettlesBelow last bound scanProgram readProgram)
    (delimiter : Delimiter) {before text : List Char}
    (room : first + terminators (before ++ delimiter.openerChar :: text) ≤ last)
    (within : (encode text).length ≤ bound) :
    Follows first last before (delimiter.openerChar :: text)
      (readBody scanProgram delimiter (between first last before (delimiter.openerChar :: text)))
      (Reading.body readProgram delimiter text) := by
  obtain ⟨openerInside, closerInside⟩ := delimiter_inside delimiter
  rw [readBody, Reading.body]
  cases cut : cutSpan delimiter .outside 0 text with
  | none =>
      rw [skipSpan_between first last room, cut]
      have whole : Whole (before ++ []) (delimiter.openerChar :: text) :=
        Whole.of_head_inside _ _ openerInside
      exact Follows.fail first last _ whole (by simp)
  | some found =>
      rcases found with ⟨inner, rest⟩
      obtain ⟨span, _, rfl, skipped, sliced⟩ := exists_span first last room cut
      obtain rfl := eq_append_of_cutSpan cut
      have wholeRest : Whole (before ++ (delimiter.openerChar :: inner ++ [delimiter.closerChar]))
          rest := by
        rw [← List.append_assoc]
        exact Whole.of_last_inside _ _ closerInside
      simp only [skipped, sliced, liftM_ok, ok_bind, isBlank_ofList, Reading.content]
      have read := fun body : Body => Follows.ok first last body wholeRest
      by_cases white : Reading.isWhite inner = true
      · simpa [white, pure_eq_ok] using read .blank
      have shorter : (encode inner).length < bound := by
        refine Nat.lt_of_lt_of_le ?_ within
        rw [encode_append, List.length_append]
        exact Nat.lt_add_of_pos_right (length_encode_pos (List.cons_ne_nil _ _))
      have counted := terminators_opened delimiter before (Whole.of_head_inside inner rest closerInside)
      have settled := settles inner (first + terminators before) shorter (by omega)
      cases readEq : readProgram inner with
      | ok program =>
          rw [readEq] at settled
          have scanned : scanProgram _ _ = _ := settled
          simpa [white, scanned, pure_eq_ok] using read (.program program)
      | error offence =>
          rw [readEq] at settled
          rcases settled with ⟨part, rfl, whole, scanned⟩
          have lineEq : terminators before + terminators part =
              terminators (before ++ delimiter.openerChar :: part) := by
            simpa [terminators] using
              (terminators_opened delimiter before (Whole.nil_right part)).symm
          rw [if_neg white, if_neg white, line_between, scanned, Nat.add_assoc, lineEq]
          exact ⟨delimiter.openerChar :: part, by simp [Offence.before],
            (whole.append rest closerInside).behind before openerInside, rfl⟩

/-! ## Terms -/

/-- A token starts with a character that is no trivia, so no cut in front of it is inside a line
terminator. -/
theorem whole_token {initial : Char} (before text : List Char)
    (token : isTrivia initial = false) : Whole before (initial :: text) := by
  refine Whole.of_head_ne before text ?_
  rintro rfl
  exact absurd token (by decide)

theorem readPrimary_follows (settles : SettlesBelow last bound scanProgram readProgram)
    {initial : Char} {before text : List Char} (token : isTrivia initial = false)
    (room : first + terminators (before ++ initial :: text) ≤ last)
    (within : (encode text).length ≤ bound) :
    Follows first last before (initial :: text)
      (readPrimary scanProgram (between first last before (initial :: text)))
      (Reading.primary readProgram initial text) := by
  have whole := whole_token before text token
  rw [readPrimary, current_between, liftM_ok, ok_bind,
    leadByte_beq '(' byteOpenParen rfl (by decide),
    leadByte_beq '\x7b' byteOpenBrace rfl (by decide),
    leadByte_beq '"' byteQuote rfl (by decide), isDigit_leadByte, char_between, liftM_ok, ok_bind,
    Reading.primary]
  simp only [List.head?_cons, Option.some_beq_some, beq_iff_eq, Option.any_some, List.headD_cons]
  by_cases isParen : initial = '('
  · subst isParen
    exact (readBody_follows first last settles .paren room within).map Term.group
  by_cases isBrace : initial = '\x7b'
  · subst isBrace
    exact (readBody_follows first last settles .brace room within).map Term.block
  by_cases isQuote : initial = '"'
  · subst isQuote
    exact (readString_follows first last room).map Term.str
  simp only [isParen, isBrace, isQuote, if_false]
  by_cases digit : initial.isDigit = true
  · have numeral := (readNumber_follows first last whole).map Reading.ofNumber
    simp only [digit, if_true]
    cases scanned : readNumber (between first last before (initial :: text)) with
    | error failure => rwa [scanned] at numeral
    | ok found =>
        rcases found with ⟨number, after⟩
        rw [scanned] at numeral
        cases number <;> exact numeral
  by_cases starts : startsName initial = true
  · simp only [digit, starts, if_true]
    exact (readName_follows first last starts).map Reading.ofName
  · simp only [digit, starts]
    have wholeStart : Whole (before ++ []) (initial :: text) := by simpa using whole
    exact Follows.fail first last _ wholeStart (by simp)

/-- A cut behind trivia is whole. -/
theorem whole_trivia {before text : List Char} :
    Whole (before ++ text.takeWhile isTrivia) (text.dropWhile isTrivia) := by
  cases behindEq : text.dropWhile isTrivia with
  | nil => exact Whole.nil_right _
  | cons initial rest =>
      exact whole_token _ rest (eq_false_of_dropWhile_eq_cons behindEq)

theorem readMember_follows (target : Term) {before text : List Char} (whole : Whole before text)
    (room : first + terminators (before ++ text) ≤ last) :
    Follows first last before text (readMember target (between first last before text))
      (Reading.member target text) := by
  have wholeBehind := @whole_trivia before text
  have textEq := List.takeWhile_append_dropWhile (p := isTrivia) (l := text)
  rw [readMember, skipTrivia_between first last whole room, liftM_ok, ok_bind, isEnd_between,
    liftM_ok, ok_bind, char_between, liftM_ok, ok_bind, Reading.member]
  generalize text.takeWhile isTrivia = trivia at *
  generalize text.dropWhile isTrivia = behind at *
  subst textEq
  apply Follows.further
  have wholeStart : Whole (before ++ trivia ++ []) behind := by simpa using wholeBehind
  cases behind with
  | nil => exact Follows.fail first last _ wholeStart (by simp)
  | cons initial rest =>
      by_cases starts : startsName initial = true
      · simpa [starts] using (readName_follows first last starts).map (Term.member target)
      · simpa [starts] using Follows.fail first last (α := Term) (.missingName (some initial))
          wholeStart (by simp)

theorem readTrailer_follows (settles : SettlesBelow last bound scanProgram readProgram)
    (target : Term) {initial : Char} {before text : List Char} (token : isTrivia initial = false)
    (room : first + terminators (before ++ initial :: text) ≤ last)
    (within : (encode text).length ≤ bound) :
    Follows first last before (initial :: text)
      (readTrailer scanProgram target (between first last before (initial :: text)))
      (Reading.trailer readProgram target initial text) := by
  rw [readTrailer, current_between, liftM_ok, ok_bind,
    leadByte_beq '(' byteOpenParen rfl (by decide), leadByte_beq '.' byteDot rfl (by decide),
    char_between, liftM_ok, ok_bind, Reading.trailer]
  simp only [List.head?_cons, Option.some_beq_some, beq_iff_eq, List.headD_cons]
  by_cases isParen : initial = '('
  · subst isParen
    exact (readBody_follows first last settles .paren room within).map (Term.call target)
  simp only [isParen, if_false]
  by_cases isPoint : initial = '.'
  · subst isPoint
    have stepped := @skipByte_between first last '.' before text (by decide) rfl
    have whole : Whole (before ++ ['.']) text := Whole.of_last_ne _ _ (by decide)
    simp only [stepped, liftM_ok, ok_bind, if_true]
    exact (readMember_follows first last target whole (by simpa using room)).further
  · simp only [isPoint, if_false]
    have wholeStart : Whole (before ++ []) (initial :: text) := by
      simpa using whole_token before text token
    exact Follows.fail first last _ wholeStart (by simp)

/-! ## Programs -/

/-- The scan of a term that is begun, or gone on with, at the cursor. -/
def scanTerm (scanProgram : String → Nat → Except Failure Program) (begun : Option Term)
    (cursor : Cursor) : Except Failure (Term × Cursor) :=
  match begun with
  | none => readPrimary scanProgram cursor
  | some target => readTrailer scanProgram target cursor

theorem scanTerm_follows (settles : SettlesBelow last bound scanProgram readProgram)
    (begun : Option Term) {initial : Char} {before text : List Char}
    (token : isTrivia initial = false)
    (room : first + terminators (before ++ initial :: text) ≤ last)
    (within : (encode text).length ≤ bound) :
    Follows first last before (initial :: text)
      (scanTerm scanProgram begun (between first last before (initial :: text)))
      (Reading.term readProgram begun initial text) := by
  cases begun with
  | none => exact readPrimary_follows first last settles token room within
  | some target => exact readTrailer_follows first last settles target token room within

/-- What a turn does is decided by the first character that is no trivia. -/
theorem programTurn_between (scanProgram : String → Nat → Except Failure Program) (draft : Draft)
    {before text : List Char} (whole : Whole before text)
    (room : first + terminators (before ++ text) ≤ last) :
    programTurn scanProgram draft (between first last before text) =
      let passed := before ++ text.takeWhile isTrivia
      match text.dropWhile isTrivia with
      | [] => .ok (.stop draft.finish (between first last passed []))
      | initial :: rest =>
          if initial = ',' then
            .ok (.next draft.closeSlot (between first last (passed ++ [initial]) rest))
          else if initial = ';' then
            .ok (.next draft.closeSegment (between first last (passed ++ [initial]) rest))
          else
            match scanTerm scanProgram draft.term (between first last passed (initial :: rest)) with
            | .error failure => .error failure
            | .ok (next, after) => .ok (.next { draft with term := some next } after) := by
  have commaAt := leadByte_beq ',' byteComma rfl (by decide)
  have semicolonAt := leadByte_beq ';' byteSemicolon rfl (by decide)
  rw [programTurn, skipTrivia_between first last whole room, liftM_ok, ok_bind, isEnd_between,
    liftM_ok, ok_bind, current_between, liftM_ok, ok_bind, commaAt, semicolonAt]
  simp only
  generalize before ++ text.takeWhile isTrivia = passed
  cases text.dropWhile isTrivia with
  | nil => rfl
  | cons initial rest =>
      simp only [List.isEmpty_cons, Bool.false_eq_true, if_false, List.head?_cons,
        Option.some_beq_some, beq_iff_eq]
      by_cases isComma : initial = ','
      · subst isComma
        have stepped := @skipByte_between first last ',' passed rest (by decide) rfl
        simp [stepped, pure_eq_ok]
      by_cases isSemicolon : initial = ';'
      · subst isSemicolon
        have stepped := @skipByte_between first last ';' passed rest (by decide) rfl
        simp [stepped, pure_eq_ok]
      · simp only [isComma, isSemicolon, if_false, scanTerm]
        cases draft.term with
        | none =>
            simp only
            cases readPrimary scanProgram (between first last passed (initial :: rest)) <;> rfl
        | some target =>
            simp only
            cases readTrailer scanProgram target (between first last passed (initial :: rest)) <;>
              rfl

/-- A turn in front of a text ends the program, or fails, or reads some of the text, as the reading
of the text does. -/
theorem exists_programTurn
    (settles : SettlesBelow last bound scanProgram (Reading.program Draft.empty)) (draft : Draft)
    {before text : List Char} (whole : Whole before text)
    (room : first + terminators (before ++ text) ≤ last) (within : (encode text).length ≤ bound) :
    (programTurn scanProgram draft (between first last before text) =
        .ok (.stop draft.finish (between first last (before ++ text) [])) ∧
        Reading.program draft text = .ok draft.finish) ∨
      (∃ read offence, text = read ++ offence.rest ∧ Whole (before ++ read) offence.rest ∧
        programTurn scanProgram draft (between first last before text) = .error (.invalid
          { line := first + terminators (before ++ read), kind := offence.kind }) ∧
        Reading.program draft text = .error offence) ∨
      ∃ next read rest, text = read ++ rest ∧ read ≠ [] ∧ Whole (before ++ read) rest ∧
        programTurn scanProgram draft (between first last before text) =
          .ok (.next next (between first last (before ++ read) rest)) ∧
        Reading.program draft text = Reading.program next rest := by
  have turnEq := programTurn_between first last scanProgram draft whole room
  have textEq := List.takeWhile_append_dropWhile (p := isTrivia) (l := text)
  rw [Reading.program_eq]
  cases behindEq : text.dropWhile isTrivia with
  | nil =>
      rw [behindEq] at turnEq textEq
      rw [List.append_nil] at textEq
      rw [textEq] at turnEq
      exact Or.inl ⟨turnEq, rfl⟩
  | cons initial rest =>
      have token := eq_false_of_dropWhile_eq_cons behindEq
      rw [behindEq] at turnEq textEq
      generalize text.takeWhile isTrivia = trivia at *
      subst textEq
      have roomBehind : first + terminators (before ++ trivia ++ initial :: rest) ≤ last := by
        rwa [List.append_assoc]
      simp only [List.append_assoc] at turnEq
      simp only
      by_cases isComma : initial = ','
      · rw [if_pos isComma] at turnEq ⊢
        refine Or.inr (Or.inr ⟨_, trivia ++ [initial], rest, by simp, by simp, ?_, turnEq, rfl⟩)
        rw [← List.append_assoc]
        exact Whole.of_last_ne _ _ (by rw [isComma]; decide)
      by_cases isSemicolon : initial = ';'
      · rw [if_neg isComma, if_pos isSemicolon] at turnEq ⊢
        refine Or.inr (Or.inr ⟨_, trivia ++ [initial], rest, by simp, by simp, ?_, turnEq, rfl⟩)
        rw [← List.append_assoc]
        exact Whole.of_last_ne _ _ (by rw [isSemicolon]; decide)
      rw [if_neg isComma, if_neg isSemicolon] at turnEq ⊢
      have termed := scanTerm_follows first last settles draft.term token roomBehind (by
        rw [encode_append, encode_cons, List.length_append, List.length_append] at within
        omega)
      cases readEq : Reading.term (Reading.program Draft.empty) draft.term initial rest with
      | error offence =>
          rw [readEq] at termed
          rcases termed with ⟨read, restEq, wholeRead, scanned⟩
          rw [scanned] at turnEq
          rw [List.append_assoc] at wholeRead turnEq
          exact Or.inr (Or.inl ⟨trivia ++ read, offence, by rw [restEq, List.append_assoc],
            wholeRead, turnEq, rfl⟩)
      | ok found =>
          rcases found with ⟨next, behind⟩
          rw [readEq] at termed
          rcases termed with ⟨read, restEq, wholeRead, scanned⟩
          rw [scanned] at turnEq
          rw [List.append_assoc] at wholeRead turnEq
          have nonempty : read ≠ [] := by
            rintro rfl
            have shorter := (Reading.suffix_of_term readEq).length_le
            rw [List.nil_append] at restEq
            rw [← restEq, List.length_cons] at shorter
            omega
          exact Or.inr (Or.inr ⟨_, trivia ++ read, behind, by rw [restEq, List.append_assoc],
            List.append_ne_nil_of_right_ne_nil trivia nonempty, wholeRead, turnEq, rfl⟩)

/-- A reading of the rest of a program is a reading up to the end of the text. -/
def toEnd (reading : Except Offence Program) : Except Offence (Program × List Char) :=
  reading.map fun program => (program, [])

theorem loop_programTurn_follows
    (settles : SettlesBelow last bound scanProgram (Reading.program Draft.empty)) (draft : Draft)
    {before text : List Char} (whole : Whole before text)
    (room : first + terminators (before ++ text) ≤ last) (within : (encode text).length ≤ bound) :
    Follows first last before text
      (Cursor.loop (.fault .stalled) (programTurn scanProgram) draft
        (between first last before text))
      (toEnd (Reading.program draft text)) := by
  induction lengthEq : text.length using Nat.strong_induction_on
    generalizing before text draft with
  | _ length ih =>
      rcases exists_programTurn first last settles draft whole room within with
        ⟨turned, reading⟩ | ⟨read, offence, rfl, wholeRead, turned, reading⟩ |
        ⟨next, read, rest, rfl, nonempty, wholeRead, turned, reading⟩
      · rw [loop_of_stop turned, reading]
        exact ⟨text, by simp, Whole.nil_right _, rfl⟩
      · rw [loop_of_error turned, reading]
        exact ⟨read, rfl, wholeRead, rfl⟩
      · have positive := List.length_pos_iff.mpr nonempty
        rw [List.length_append] at lengthEq
        rw [encode_append, List.length_append] at within
        rw [← List.append_assoc] at room
        rw [loop_of_next turned (remaining_between_lt first last nonempty), reading]
        exact (ih rest.length (by omega) next wholeRead room (by omega) rfl).further

/-! ## Texts -/

/-- The reader of the bodies of a text, which have to be shorter than the text. -/
def readShorter (text : String) (lastLine : Nat) (body : String) (line : Nat) :
    Except Failure Program :=
  if body.utf8ByteSize < text.utf8ByteSize then Program.read body line lastLine
  else .error (.fault .bodyNotShorter)

theorem Program.read_eq (text : String) (line lastLine : Nat) :
    Program.read text line lastLine = do
      let (program, _) ← Cursor.loop (.fault .stalled) (programTurn (readShorter text lastLine))
        Draft.empty (Cursor.atLine text line lastLine)
      return program := by
  rw [Program.read]
  rfl

/-- The scan of a text follows its reading, at every nesting depth. -/
theorem read_settles (text : List Char) (line : Nat) (room : line + terminators text ≤ last) :
    Settles line text (Program.read (String.ofList text) line last)
      (Reading.program Draft.empty text) := by
  induction bytesEq : (encode text).length using Nat.strong_induction_on generalizing text line with
  | _ bytes ih =>
      have settles : SettlesBelow last bytes (readShorter (String.ofList text) last)
          (Reading.program Draft.empty) := by
        intro inner line shorter roomInner
        have shorterText :
            (String.ofList inner).utf8ByteSize < (String.ofList text).utf8ByteSize := by
          simpa only [utf8ByteSize_ofList, bytesEq] using shorter
        rw [readShorter, if_pos shorterText]
        exact ih _ shorter inner line roomInner rfl
      have looped := loop_programTurn_follows line last settles Draft.empty
        (Whole.nil_left text) (by simpa using room) bytesEq.le
      rw [Program.read_eq, atLine_eq_between, String.toList_ofList]
      cases readEq : Reading.program Draft.empty text with
      | ok program =>
          rw [readEq] at looped
          rcases looped with ⟨read, -, -, scanned⟩
          rw [scanned]
          rfl
      | error offence =>
          rw [readEq] at looped
          rcases looped with ⟨read, textEq, whole, scanned⟩
          refine ⟨read, textEq, by simpa using whole, ?_⟩
          rw [scanned, List.nil_append]
          rfl

/-- The scans of the bodies of a text follow their readings. -/
theorem readShorter_settles (text : List Char) :
    SettlesBelow last (encode text).length (readShorter (String.ofList text) last)
      (Reading.program Draft.empty) := by
  intro inner line shorter room
  rw [readShorter, if_pos (by simpa only [utf8ByteSize_ofList] using shorter)]
  exact read_settles last inner line room

/-- No line of a source has a number above the last one that it can have. -/
theorem source_room (source : String) :
    1 + terminators source.toList ≤ Cursor.lastLineFrom 1 source := by
  have charactersLe := Text.terminators_le_length source.toList
  have bytesLe := length_le_length_encode source.toList
  rw [length_encode_toList] at bytesLe
  exact Nat.add_le_add_left (charactersLe.trans bytesLe) 1

/-- A source text is scanned as it is read. -/
theorem ofSource_settles (source : String) :
    Settles 1 source.toList (Program.ofSource source)
      (Reading.program Draft.empty source.toList) := by
  have settled := read_settles (Cursor.lastLineFrom 1 source) source.toList 1
    (source_room source)
  rwa [String.ofList_toList] at settled

end Focal.Syntax
