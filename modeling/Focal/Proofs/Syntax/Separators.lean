import Focal.Proofs.Syntax.Soundness

/-!
# Texts in front of a separator

A text that reads is read to the same draft when a comma or a semicolon follows it
(`Reading.exists_draft_before_separator`): every token ends in front of a separator as it does at
the end of the text.  What follows the separator is read as it is on its own, since a draft only
collects what was read before it (`Reading.program_extend`).

How the draft ends shows in the text.  The last character that is no trivia is a comma if the
current slot has not been begun, a semicolon if the current segment has not, and otherwise belongs
to a term (`endingFrom`).
-/

namespace Focal.Syntax

open Focal.Source Focal.Source.Cursor
open Reading (endsName endsNumber startsToken)

/-- A comma or a semicolon. -/
def isSeparator (character : Char) : Bool :=
  character == ',' || character == ';'

theorem isSeparator_cases {separator : Char} (separates : isSeparator separator = true) :
    separator = ',' ∨ separator = ';' := by
  simpa [isSeparator] using separates

/-! ## Where a text ends -/

/-- Where the next token of a text would stand. -/
inductive Ending where
  /-- At the start of a slot. -/
  | slot
  /-- At the start of a segment behind a semicolon. -/
  | segment
  /-- Behind a term. -/
  | term
deriving DecidableEq

/-- Where a token behind a character would stand. -/
def Ending.next (ending : Ending) (character : Char) : Ending :=
  if isTrivia character then ending
  else if character = ',' then .slot
  else if character = ';' then .segment
  else .term

/-- Where a token behind a text would stand. -/
def Ending.after (ending : Ending) (text : List Char) : Ending :=
  text.foldl Ending.next ending

/-- Where a token behind a draft would stand. -/
def Draft.ending (draft : Draft) : Ending :=
  match draft.term, draft.segments with
  | some _, _ => .term
  | none, [] => .slot
  | none, _ :: _ => .segment

/-- A program read behind a draft, with what the draft holds. -/
def Draft.extend (draft : Draft) (tree : Program) : Program :=
  (tree.mapFirst (·.behind draft.segments)).behind draft.slots

namespace Ending

theorem after_append (ending : Ending) (first second : List Char) :
    ending.after (first ++ second) = (ending.after first).after second :=
  List.foldl_append

theorem after_trivia (ending : Ending) {trivia : List Char} (around : Trivia trivia) :
    ending.after trivia = ending := by
  induction trivia with
  | nil => rfl
  | cons character trivia ih =>
      have first := around character List.mem_cons_self
      rw [after, List.foldl_cons, next, if_pos first]
      exact ih fun other member => around other (List.mem_cons_of_mem character member)

/-- The last character that is no trivia decides. -/
theorem after_last (ending : Ending) (front : List Char) {final : Char} {trivia : List Char}
    (token : isTrivia final = false) (around : Trivia trivia) :
    ending.after (front ++ final :: trivia) =
      if final = ',' then .slot else if final = ';' then .segment else .term := by
  have step : Ending.after (ending.after front) (final :: trivia) =
      ((ending.after front).next final).after trivia := rfl
  rw [after_append, step, after_trivia _ around, next, if_neg (by simp [token])]

/-- What stands in front of a token does not matter. -/
theorem after_token (ending : Ending) (front : List Char) {final : Char} (rest : List Char)
    (token : startsToken final = true) :
    ending.after (front ++ final :: rest) = Ending.term.after rest := by
  simp only [startsToken, Bool.and_eq_true, Bool.not_eq_true', bne_iff_ne] at token
  rw [← List.singleton_append, ← List.append_assoc, after_append,
    after_last ending front token.1.1 (by simp [Trivia]), if_neg token.1.2, if_neg token.2]

theorem exists_last (text : List Char) :
    Trivia text ∨ ∃ front final trivia,
      text = front ++ final :: trivia ∧ isTrivia final = false ∧ Trivia trivia := by
  induction text with
  | nil => simp [Trivia]
  | cons character text ih =>
      rcases ih with around | ⟨front, final, trivia, rfl, token, around⟩
      · cases token : isTrivia character with
        | true => exact Or.inl (List.forall_mem_cons.mpr ⟨token, around⟩)
        | false => exact Or.inr ⟨[], character, text, rfl, token, around⟩
      · exact Or.inr ⟨character :: front, final, trivia, rfl, token, around⟩

/-- A text ends at the start of a slot if it is trivia or only trivia follows its last comma. -/
theorem after_eq_slot_iff {text : List Char} :
    Ending.slot.after text = .slot ↔
      Trivia text ∨ ∃ front trivia, text = front ++ ',' :: trivia ∧ Trivia trivia := by
  constructor
  · intro ended
    rcases exists_last text with around | ⟨front, final, trivia, rfl, token, around⟩
    · exact Or.inl around
    · rw [after_last _ front token around] at ended
      have isComma : final = ',' := by
        by_contra differs
        rw [if_neg differs] at ended
        split at ended <;> cases ended
      exact Or.inr ⟨front, trivia, by rw [isComma], around⟩
  · rintro (around | ⟨front, trivia, rfl, around⟩)
    · exact after_trivia _ around
    · exact after_last _ front rfl around

/-- A text ends at the start of a segment if only trivia follows its last semicolon. -/
theorem after_eq_segment_iff {text : List Char} :
    Ending.slot.after text = .segment ↔
      ∃ front trivia, text = front ++ ';' :: trivia ∧ Trivia trivia := by
  constructor
  · intro ended
    rcases exists_last text with around | ⟨front, final, trivia, rfl, token, around⟩
    · cases (after_trivia _ around).symm.trans ended
    · rw [after_last _ front token around] at ended
      have isSemicolon : final = ';' := by
        by_contra differs
        rw [if_neg differs] at ended
        split at ended <;> cases ended
      exact ⟨front, trivia, by rw [isSemicolon], around⟩
  · rintro ⟨front, trivia, rfl, around⟩
    exact after_last _ front rfl around

end Ending

/-! ## Tokens in front of a separator -/

theorem endsName_append {rest : List Char} (ends : endsName rest = true) {separator : Char}
    (separates : isSeparator separator = true) (more : List Char) :
    endsName (rest ++ separator :: more) = true := by
  cases rest with
  | nil => rcases isSeparator_cases separates with rfl | rfl <;> rfl
  | cons character rest => exact ends

theorem endsNumber_append {rest : List Char} (ends : endsNumber rest = true) {separator : Char}
    (separates : isSeparator separator = true) (more : List Char) :
    endsNumber (rest ++ separator :: more) = true := by
  cases rest with
  | nil => rcases isSeparator_cases separates with rfl | rfl <;> rfl
  | cons character rest => exact ends

theorem startsToken_of_continuesName {character : Char} (continues : continuesName character = true) :
    startsToken character = true := by
  simp only [startsToken, Bool.and_eq_true, Bool.not_eq_true', bne_iff_ne, and_assoc]
  refine ⟨?_, ?_, ?_⟩
  · cases trivia : isTrivia character with
    | false => rfl
    | true =>
        rcases isTrivia_cases trivia with rfl | rfl | rfl | rfl <;>
          exact absurd continues (by decide)
  · rintro rfl
    exact absurd continues (by decide)
  · rintro rfl
    exact absurd continues (by decide)

/-- A nonempty run of characters that tokens are made of ends with one of them. -/
theorem exists_final {run : List Char} (nonempty : run ≠ [])
    (tokens : ∀ character ∈ run, startsToken character = true) :
    ∃ front final, run = front ++ [final] ∧ startsToken final = true :=
  ⟨run.dropLast, run.getLast nonempty, (List.dropLast_append_getLast nonempty).symm,
    tokens _ (List.getLast_mem nonempty)⟩

namespace Reading

variable {α β : Type} {read : List Char → Except Offence (α × List Char)} {initial : Char}
  {text rest : List Char}

/-- A reading from a text behind `initial` up to a rest ends with a character of a token, and comes
to the same in front of a separator. -/
structure Takes (read : List Char → Except Offence (α × List Char)) (initial : Char)
    (text : List Char) (value : α) (rest : List Char) : Prop where
  ends : ∃ front final, initial :: text = front ++ final :: rest ∧ startsToken final = true
  before_separator : ∀ {separator : Char}, isSeparator separator = true → ∀ more,
    read (text ++ separator :: more) = .ok (value, rest ++ separator :: more)

theorem Takes.map {value : α} (takes : Takes read initial text value rest) (change : α → β) :
    Takes (fun text => mapFirst change (read text)) initial text (change value) rest where
  ends := takes.ends
  before_separator separates more := by
    rw [takes.before_separator separates more]
    rfl

theorem takes_of_string {value : String} (read : string text = .ok (value, rest)) :
    Takes string '"' text value rest := by
  obtain ⟨content, rfl, decoded, spells, rfl⟩ := spells_of_string read
  refine ⟨⟨'"' :: content, '"', rfl, by decide⟩, fun _ more => ?_⟩
  rw [List.append_assoc, List.cons_append]
  exact string_of_spells spells _

theorem takes_of_number {value : Number} (digit : initial.isDigit = true)
    (read : number (initial :: text) = .ok (value, rest)) :
    Takes (fun text => number (initial :: text)) initial text value rest := by
  have derives := derives_of_number digit read
  have finalOf : ∀ {digits}, Digits digits →
      ∃ front final, digits = front ++ [final] ∧ startsToken final = true := fun run =>
    exists_final run.1 fun _ member => startsToken_of_isDigit (run.2 _ member)
  generalize textEq : initial :: text = whole at derives
  cases value with
  | int value =>
      cases derives with
      | @int digits rest run small ends =>
          obtain ⟨front, final, digitsEq, token⟩ := finalOf run
          refine ⟨⟨front, final, by simp [textEq, digitsEq], token⟩,
            fun {separator} separates more => ?_⟩
          have endsMore : IntegerEnds (rest ++ separator :: more) :=
            ends.imp (endsNumber_append · separates more) fun ⟨beyond, restEq, member⟩ =>
              ⟨beyond ++ separator :: more, by rw [restEq]; rfl, by
                cases beyond with
                | nil => simp [startsMember] at member
                | cons => exact member⟩
          rw [← List.cons_append, textEq, List.append_assoc]
          exact number_of_integer run small endsMore
  | float value =>
      cases derives with
      | @float whole fraction rest wholeRun fractionRun ends =>
          obtain ⟨front, final, digitsEq, token⟩ := finalOf fractionRun
          refine ⟨⟨whole ++ '.' :: front, final, by simp [textEq, digitsEq], token⟩,
            fun {separator} separates more => ?_⟩
          have endsMore : FractionEnds (rest ++ separator :: more) :=
            ends.imp (endsNumber_append · separates more) fun headEq => by
              rw [List.head?_append, headEq]
              rfl
          rw [← List.cons_append, textEq, List.append_assoc]
          exact number_of_fraction wholeRun fractionRun endsMore

theorem takes_of_name {spelled : String} (starts : startsName initial = true)
    (read : name initial text = .ok (spelled, rest)) :
    Takes (name initial) initial text spelled rest := by
  have ends : endsName rest = true := by
    rw [name] at read
    split at read
    · rename_i ends
      obtain ⟨-, rfl⟩ := Prod.mk.inj (Except.ok.inj read)
      exact ends
    · simp [failExpecting, fail] at read
  obtain ⟨whole, textEq, spelledName, rfl⟩ := name_of_read starts read
  obtain ⟨front, final, wholeEq, token⟩ := @exists_final whole
    (by rintro rfl; cases spelledName)
    fun _ member => startsToken_of_continuesName (spelledName.continues _ member)
  refine ⟨⟨front, final, by simp [textEq, wholeEq], token⟩, fun separates more => ?_⟩
  cases spelledName with
  | @intro first others starts continues =>
      obtain ⟨rfl, rfl⟩ : initial = first ∧ text = others ++ rest := by simpa using textEq
      rw [List.append_assoc]
      exact name_of_name (.intro starts continues) (endsName_append ends separates more)

theorem takes_of_body {readProgram : List Char → Except Offence Program} {delimiter : Delimiter}
    {value : Body} (read : body readProgram delimiter text = .ok (value, rest)) :
    Takes (body readProgram delimiter) delimiter.openerChar text value rest := by
  have closerToken : startsToken delimiter.closerChar = true := by
    cases delimiter <;> decide
  rw [body] at read
  split at read
  · simp [fail] at read
  rename_i inner behind cut
  split at read
  · rename_i found inside
    obtain ⟨rfl, rfl⟩ : found = value ∧ behind = rest := by simpa using read
    refine ⟨⟨delimiter.openerChar :: inner, delimiter.closerChar, ?_, closerToken⟩, ?_⟩
    · rw [eq_append_of_cutSpan cut, List.cons_append]
    · intro separator _ more
      rw [body, cutSpan_append _ cut]
      simp only [inside]
  · simp at read

theorem takes_of_member {target next : Term} (read : member target text = .ok (next, rest)) :
    Takes (member target) '.' text next rest := by
  obtain ⟨trivia, around, textEq, token⟩ := exists_trivia text
  rw [member] at read
  split at read
  · simp [fail] at read
  rename_i first behind behindEq
  split at read
  · rename_i starts
    obtain ⟨spelled, named, rfl⟩ := mapFirst_eq_ok_iff.mp read
    have taken := takes_of_name starts named
    obtain ⟨front, final, firstEq, finalToken⟩ := taken.ends
    rw [behindEq] at textEq
    refine ⟨⟨'.' :: trivia ++ front, final, by simp [textEq, firstEq], finalToken⟩,
      fun separates more => ?_⟩
    have kept := token first behind behindEq
    rw [member, textEq, List.append_assoc, dropWhile_trivia around, List.cons_append,
      List.dropWhile_cons_of_neg (by simp [kept])]
    simp only [starts, if_true, taken.before_separator separates more]
    rfl
  · simp [fail] at read

/-- A turn that reads a primary or a trailer takes a token, and takes the same in front of a
separator. -/
theorem takes_of_term {readProgram : List Char → Except Offence Program} {begun : Option Term}
    {next : Term} (read : term readProgram begun initial text = .ok (next, rest)) :
    Takes (term readProgram begun initial) initial text next rest := by
  cases begun with
  | none =>
      simp only [term, primary] at read
      split at read
      · rename_i isParen
        obtain ⟨_, inside, rfl⟩ := mapFirst_eq_ok_iff.mp read
        subst isParen
        exact (takes_of_body inside).map Term.group
      rename_i notParen
      split at read
      · rename_i isBrace
        obtain ⟨_, inside, rfl⟩ := mapFirst_eq_ok_iff.mp read
        subst isBrace
        exact (takes_of_body inside).map Term.block
      rename_i notBrace
      split at read
      · rename_i isQuote
        obtain ⟨_, quoted, rfl⟩ := mapFirst_eq_ok_iff.mp read
        subst isQuote
        exact (takes_of_string quoted).map Term.str
      rename_i notQuote
      split at read
      · rename_i digit
        obtain ⟨_, numeral, rfl⟩ := mapFirst_eq_ok_iff.mp read
        have readEq : term readProgram none initial =
            fun text => mapFirst ofNumber (number (initial :: text)) := by
          funext text
          simp [term, primary, notParen, notBrace, notQuote, digit]
        rw [readEq]
        exact (takes_of_number digit numeral).map ofNumber
      rename_i noDigit
      split at read
      · rename_i starts
        obtain ⟨_, named, rfl⟩ := mapFirst_eq_ok_iff.mp read
        have readEq : term readProgram none initial =
            fun text => mapFirst ofName (name initial text) := by
          funext text
          simp [term, primary, notParen, notBrace, notQuote, noDigit, starts]
        rw [readEq]
        exact (takes_of_name starts named).map ofName
      · simp [failExpecting, fail] at read
  | some target =>
      simp only [term, trailer] at read
      split at read
      · rename_i isParen
        obtain ⟨_, inside, rfl⟩ := mapFirst_eq_ok_iff.mp read
        subst isParen
        exact (takes_of_body inside).map (Term.call target)
      rename_i notParen
      split at read
      · rename_i isPoint
        subst isPoint
        exact takes_of_member read
      · simp [failExpecting, fail] at read

/-! ## Programs in front of a separator -/

/-- A text is read from one draft up to another one, which ends where the text does, whatever
separator stands behind the text. -/
structure LeadsTo (draft : Draft) (text : List Char) (final : Draft) : Prop where
  ending_eq : final.ending = draft.ending.after text
  before_separator : ∀ {separator : Char}, isSeparator separator = true → ∀ more,
    program draft (text ++ separator :: more) = program final (separator :: more)

theorem LeadsTo.of_trivia {trivia : List Char} (around : Trivia trivia) (draft : Draft) :
    LeadsTo draft trivia draft where
  ending_eq := (draft.ending.after_trivia around).symm
  before_separator _ _ := program_trivia around draft

/-- One turn that starts with a mark behind trivia and goes on with the rest of the text. -/
theorem LeadsTo.turn {draft next final : Draft} {trivia inner rest : List Char} {mark : Char}
    (leads : LeadsTo next rest final) (around : Trivia trivia)
    (ends : draft.ending.after (mark :: inner) = next.ending.after rest)
    (turned : ∀ {separator : Char}, isSeparator separator = true → ∀ more,
      program draft (mark :: (inner ++ separator :: more)) =
        program next (rest ++ separator :: more)) :
    LeadsTo draft (trivia ++ mark :: inner) final where
  ending_eq := by
    rw [leads.ending_eq, Ending.after_append, Ending.after_trivia _ around, ends]
  before_separator separates more := by
    rw [List.append_assoc, program_trivia around, List.cons_append, turned separates more,
      leads.before_separator separates more]

/-- A text that reads leads to the draft that finishes as the text does. -/
theorem exists_draft_before_separator {draft : Draft} {tree : Program}
    (read : program draft text = .ok tree) :
    ∃ final : Draft, final.finish = tree ∧ LeadsTo draft text final := by
  induction lengthEq : text.length using Nat.strong_induction_on generalizing draft text with
  | _ length ih =>
      have turn := program_turn draft text
      generalize program draft text = result at turn read
      cases turn with
      | finish around => exact ⟨draft, Except.ok.inj read, LeadsTo.of_trivia around draft⟩
      | @comma trivia rest around =>
          rw [List.length_append, List.length_cons] at lengthEq
          obtain ⟨final, finishEq, leads⟩ := ih rest.length (by omega) read rfl
          exact ⟨final, finishEq, leads.turn around rfl fun _ _ => program_comma draft _⟩
      | @semicolon trivia rest around =>
          rw [List.length_append, List.length_cons] at lengthEq
          obtain ⟨final, finishEq, leads⟩ := ih rest.length (by omega) read rfl
          exact ⟨final, finishEq, leads.turn around rfl fun _ _ => program_semicolon draft _⟩
      | stop => cases read
      | @term trivia rest behind initial next around token termed =>
          rw [List.length_append, List.length_cons] at lengthEq
          have taken := takes_of_term termed
          obtain ⟨front, last, textEq, lastToken⟩ := taken.ends
          have shorter := (suffix_of_term termed).length_le
          obtain ⟨final, finishEq, leads⟩ := ih behind.length (by omega) read rfl
          refine ⟨final, finishEq, leads.turn around ?_ fun separates more => ?_⟩
          · rw [textEq, Ending.after_token _ front behind lastToken]
            rfl
          · exact program_term draft token (taken.before_separator separates more)

/-- A text is read in the same way whatever has been read in front of it. -/
theorem program_extend (draft : Draft) (text : List Char) :
    program draft text = (program { Draft.empty with term := draft.term } text).map draft.extend := by
  induction lengthEq : text.length using Nat.strong_induction_on generalizing draft text with
  | _ length ih =>
      have behindTrivia := (List.dropWhile_suffix isTrivia (l := text)).length_le
      -- Both drafts go on with drafts that differ in the same way.
      have joined : ∀ (next alone : Draft) (rest : List Char), rest.length < length →
          alone.term = next.term →
          (∀ tree, next.extend tree = draft.extend (alone.extend tree)) →
          program next rest = (program alone rest).map draft.extend := by
        intro next alone rest shorter termEq extendEq
        rw [ih _ shorter next rest rfl, ih _ shorter alone rest rfl, termEq]
        cases program { Draft.empty with term := next.term } rest with
        | error offence => rfl
        | ok tree => simp [Except.map, extendEq]
      rw [program_eq draft, program_eq { Draft.empty with term := draft.term }]
      cases behindEq : text.dropWhile isTrivia with
      | nil => rfl
      | cons initial rest =>
          rw [behindEq, List.length_cons] at behindTrivia
          simp only
          by_cases isComma : initial = ','
          · rw [if_pos isComma, if_pos isComma]
            exact joined _ _ rest (by omega) rfl fun tree => by cases tree <;> rfl
          by_cases isSemicolon : initial = ';'
          · rw [if_neg isComma, if_neg isComma, if_pos isSemicolon, if_pos isSemicolon]
            exact joined _ _ rest (by omega) rfl fun tree => by cases tree <;> rfl
          rw [if_neg isComma, if_neg isComma, if_neg isSemicolon, if_neg isSemicolon]
          cases termed : term (program Draft.empty) draft.term initial rest with
          | error offence => rfl
          | ok found =>
              rcases found with ⟨next, behind⟩
              have shorter := (suffix_of_term termed).length_le
              exact joined _ _ behind (by omega) rfl fun tree => by cases tree <;> rfl

/-- A comma closes the slot of what stands in front of it, and a semicolon the segment. -/
theorem exists_draft_of_joined {front : List Char} {tree : Program}
    (read : program Draft.empty front = .ok tree) :
    ∃ draft : Draft, draft.finish = tree ∧ draft.ending = Ending.slot.after front ∧
      ∀ text,
        program Draft.empty (front ++ ',' :: text) =
          (program Draft.empty text).map draft.closeSlot.extend ∧
        program Draft.empty (front ++ ';' :: text) =
          (program Draft.empty text).map draft.closeSegment.extend := by
  obtain ⟨draft, finishEq, endingEq, before⟩ := exists_draft_before_separator read
  refine ⟨draft, finishEq, endingEq, fun text => ⟨?_, ?_⟩⟩
  · rw [before (by decide), program_comma, program_extend]
    rfl
  · rw [before (by decide), program_semicolon, program_extend]
    rfl

/-- Trivia alone reads as the program without a token, and nothing else does. -/
theorem program_eq_empty_iff {text : List Char} :
    program Draft.empty text = .ok (.last (.last .empty)) ↔ Trivia text := by
  constructor
  · intro read
    cases derives_of_read read with
    | lastSlot only =>
        cases only with
        | lastSegment only =>
            cases only with
            | empty around => simpa using around
  · exact fun around => program_end around Draft.empty

end Reading

/-! ## The last slot -/

/-- The last slot of a program. -/
def Program.lastSlot : Program → Slot
  | .last slot => slot
  | .andThen _ rest => rest.lastSlot

theorem Program.lastSlot_behind (program : Program) (earlier : List Slot) :
    (program.behind earlier).lastSlot = program.lastSlot := by
  induction earlier generalizing program with
  | nil => rfl
  | cons slot earlier ih => exact ih (.andThen slot program)

theorem Slot.behind_ne_empty {slot : Slot} {earlier : List Segment}
    (touched : earlier ≠ [] ∨ slot ≠ .last .empty) : slot.behind earlier ≠ .last .empty := by
  induction earlier generalizing slot with
  | nil => exact touched.resolve_left (by simp)
  | cons segment earlier ih => exact ih (Or.inr (by simp))

theorem Draft.ending_eq_slot_iff {draft : Draft} :
    draft.ending = .slot ↔ draft.slot = .last .empty := by
  rcases draft with ⟨slots, _ | ⟨segment, segments⟩, _ | tree⟩
  · simp [ending, slot, Slot.behind, Segment.ofTerm?]
  · simp [ending, slot, Slot.behind, Segment.ofTerm?]
  · simp [ending, slot, Slot.behind_ne_empty]
  · simp [ending, slot, Slot.behind_ne_empty]

/-- A text that reads ends at the start of a slot exactly when no token stands in the last slot of
its program: so the last comma, which only trivia follows, is none of a body or string. -/
theorem lastSlot_eq_empty_iff {text : List Char} {tree : Program}
    (read : Reading.program Draft.empty text = .ok tree) :
    tree.lastSlot = .last .empty ↔ Ending.slot.after text = .slot := by
  obtain ⟨draft, rfl, endingEq, _⟩ := Reading.exists_draft_before_separator read
  have endsAs : draft.ending = Ending.slot.after text := endingEq
  rw [← endsAs, Draft.ending_eq_slot_iff, Draft.finish, Program.lastSlot_behind, Program.lastSlot]

end Focal.Syntax
