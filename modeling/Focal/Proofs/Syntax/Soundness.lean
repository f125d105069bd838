import Focal.Proofs.Syntax.Completeness

/-!
# Texts that are read can be derived

The reader goes through a text from left to right and keeps what it has read in a draft.
`Reached source draft rest` says what the draft has to do with the text: its slots and segments
derive the text up to the start of the current segment, and its term, if it has one, derives the
text from there up to the rest.  Each turn of the reader keeps this, so at the end of the text the
finished draft derives all of it (`derives_of_read`).
-/

namespace Focal.Syntax

open Focal.Source Focal.Source.Cursor
open Reading (endsName endsNumber)

/-! ## How far a text has been read -/

/-- A segment of a text starts at `rest`, behind finished slots and finished segments of the current
slot, the last ones first. -/
inductive SegmentStart (source : List Char) : List Slot → List Segment → List Char → Prop
  | first : SegmentStart source [] [] source
  | semicolon {slots : List Slot} {segments : List Segment} {segment : Segment}
      {text rest : List Char} (before : SegmentStart source slots segments text)
      (derives : Derives (.segment segment) text (';' :: rest)) :
      SegmentStart source slots (segment :: segments) rest
  | comma {slots : List Slot} {segments : List Segment} {segment : Segment}
      {text rest : List Char} (before : SegmentStart source slots segments text)
      (derives : Derives (.segment segment) text (',' :: rest)) :
      SegmentStart source ((Slot.last segment).behind segments :: slots) [] rest

/-- A segment that starts at `text` has been read up to `rest`. -/
inductive Begun : Option Term → List Char → List Char → Prop
  | vacant {trivia rest : List Char} (leading : Trivia trivia) : Begun none (trivia ++ rest) rest
  | term {tree : Term} {before text behind rest : List Char} (leading : Trivia before)
      (derives : Derives (.term tree) text (behind ++ rest)) (trailing : Trivia behind) :
      Begun (some tree) (before ++ text) rest

/-- A text has been read up to a rest, and the draft is what has been read. -/
def Reached (source : List Char) (draft : Draft) (rest : List Char) : Prop :=
  ∃ text, SegmentStart source draft.slots draft.segments text ∧ Begun draft.term text rest

namespace Begun

variable {begun : Option Term} {text rest : List Char}

theorem past_trivia {trivia : List Char} (read : Begun begun text (trivia ++ rest))
    (around : Trivia trivia) : Begun begun text rest := by
  have joined : ∀ {before : List Char}, Trivia before → Trivia (before ++ trivia) :=
    fun leading character member => (List.mem_append.mp member).elim (leading character)
      (around character)
  cases read with
  | vacant leading =>
      rw [← List.append_assoc]
      exact .vacant (joined leading)
  | term leading derives trailing =>
      rw [← List.append_assoc] at derives
      exact .term leading derives (joined trailing)

/-- What has been read of a segment derives a segment. -/
theorem segment (read : Begun begun text rest) :
    Derives (.segment (Segment.ofTerm? begun)) text rest := by
  cases read with
  | vacant leading => exact .empty leading
  | term leading derives trailing => exact .segment leading derives trailing

theorem primary {tree : Term} {behind : List Char} (read : Begun none text rest)
    (derives : Derives (.term tree) rest behind) : Begun (some tree) text behind := by
  cases read with
  | vacant leading => exact @Begun.term tree _ rest [] behind leading derives (by simp [Trivia])

theorem trailer {target next : Term} {behind : List Char} (read : Begun (some target) text rest)
    (derives : ∀ start trivia, Trivia trivia → Derives (.term target) start (trivia ++ rest) →
      Derives (.term next) start behind) : Begun (some next) text behind := by
  cases read with
  | @term _ before start trailing _ leading inside around =>
      exact @Begun.term next before start [] behind leading (derives start trailing around inside)
        (by simp [Trivia])

end Begun

namespace Reached

variable {source rest : List Char} {draft : Draft}

theorem start (source : List Char) : Reached source Draft.empty source :=
  ⟨source, .first, @Begun.vacant [] source (by simp [Trivia])⟩

theorem past_trivia {trivia : List Char} (reached : Reached source draft (trivia ++ rest))
    (around : Trivia trivia) : Reached source draft rest := by
  rcases reached with ⟨text, start, read⟩
  exact ⟨text, start, read.past_trivia around⟩

theorem comma (reached : Reached source draft (',' :: rest)) :
    Reached source draft.closeSlot rest := by
  rcases reached with ⟨text, start, read⟩
  exact ⟨rest, start.comma read.segment, @Begun.vacant [] rest (by simp [Trivia])⟩

theorem semicolon (reached : Reached source draft (';' :: rest)) :
    Reached source draft.closeSegment rest := by
  rcases reached with ⟨text, start, read⟩
  exact ⟨rest, start.semicolon read.segment, @Begun.vacant [] rest (by simp [Trivia])⟩

end Reached

/-! ## The end of a text -/

/-- A program with its first slot changed. -/
def Program.mapFirst (change : Slot → Slot) : Program → Program
  | .last slot => .last (change slot)
  | .andThen slot rest => .andThen (change slot) rest

theorem Derives.more_segments {segment : Segment} {tree : Program} {text rest : List Char}
    (first : Derives (.segment segment) text (';' :: rest))
    (others : Derives (.program tree) rest []) :
    Derives (.program (tree.mapFirst (.andThen segment))) text [] := by
  cases others with
  | lastSlot only => exact .lastSlot (.semicolon first only)
  | comma slot others => exact .comma (.semicolon first slot) others

/-- A program that derives the text from the start of a segment on, with what has been read in front
of that, derives all of the text. -/
theorem SegmentStart.derives {source text : List Char} {slots : List Slot}
    {segments : List Segment} (start : SegmentStart source slots segments text) {tree : Program}
    (behind : Derives (.program tree) text []) :
    Derives (.program ((tree.mapFirst (·.behind segments)).behind slots)) source [] := by
  induction start generalizing tree with
  | first => cases tree <;> exact behind
  | semicolon before derives ih =>
      have joined := ih (derives.more_segments behind)
      cases tree <;> exact joined
  | @comma slots segments segment text rest before derives ih =>
      have joined := ih (Derives.comma (.lastSegment derives) behind)
      cases tree <;> exact joined

theorem Reached.finish {source : List Char} {draft : Draft} (reached : Reached source draft []) :
    Derives (.program draft.finish) source [] := by
  rcases reached with ⟨text, start, read⟩
  exact start.derives (.lastSlot (.lastSegment read.segment))

/-! ## Tokens -/

namespace Reading

theorem spells_of_string {text rest : List Char} {value : String}
    (read : string text = .ok (value, rest)) :
    ∃ content, text = content ++ '"' :: rest ∧ ∃ decoded, Spells content decoded ∧
      String.ofList decoded = value := by
  rw [string] at read
  split at read
  · rename_i content behind closed
    obtain ⟨rfl, rfl⟩ : _ = value ∧ behind = rest := by simpa using read
    have spells := spells_of_closeQuote closed
    exact ⟨content, eq_append_of_closeQuote closed, _, by simpa using spells, rfl⟩
  · simp [fail] at read

theorem derives_of_integer {digits rest behind : List Char} {value : Number} (run : Digits digits)
    (ends : IntegerEnds rest) (read : integer digits rest = .ok (value, behind)) :
    Derives (.term (ofNumber value)) (digits ++ rest) behind := by
  rw [integer] at read
  split at read
  · rename_i small
    obtain ⟨rfl, rfl⟩ : _ = value ∧ rest = behind := by simpa using read
    exact .int run small ends
  · simp [fail] at read

theorem derives_of_fraction {whole beyond behind : List Char} {value : Number} (run : Digits whole)
    (read : fraction whole beyond = .ok (value, behind)) :
    Derives (.term (ofNumber value)) (whole ++ '.' :: beyond) behind := by
  have beyondEq := List.takeWhile_append_dropWhile (p := Char.isDigit) (l := beyond)
  have allDigits : ∀ character ∈ beyond.takeWhile Char.isDigit, character.isDigit = true :=
    fun _ member => List.mem_takeWhile_imp member
  rw [fraction] at read
  generalize beyond.takeWhile Char.isDigit = digits at *
  generalize beyond.dropWhile Char.isDigit = rest at *
  split at read
  · simp [failExpecting, fail] at read
  split at read
  · simp [fail] at read
  split at read
  · simp [failExpecting, fail] at read
  split at read
  · rename_i nonempty closed
    obtain ⟨rfl, rfl⟩ : _ = value ∧ rest = behind := by simpa using read
    have derives := Derives.float run ⟨nonempty, allDigits⟩ closed.symm
    simpa [← beyondEq, readFraction, ofNumber] using derives
  · simp [failExpecting, fail] at read

theorem derives_of_number {initial : Char} {text rest : List Char} {value : Number}
    (digit : initial.isDigit = true) (read : number (initial :: text) = .ok (value, rest)) :
    Derives (.term (ofNumber value)) (initial :: text) rest := by
  have textEq := List.takeWhile_append_dropWhile (p := Char.isDigit) (l := initial :: text)
  have run : Digits ((initial :: text).takeWhile Char.isDigit) :=
    ⟨by simp [digit], fun _ member => List.mem_takeWhile_imp member⟩
  rw [number] at read
  generalize (initial :: text).takeWhile Char.isDigit = digits at *
  generalize (initial :: text).dropWhile Char.isDigit = behind at *
  rw [← textEq]
  split at read
  · rename_i pointed
    obtain ⟨beyond, rfl⟩ := List.head?_eq_some_iff.mp pointed
    split at read
    · rename_i member
      exact derives_of_integer run (Or.inr ⟨beyond, rfl, member⟩) read
    · exact derives_of_fraction run read
  · split at read
    · rename_i ends
      exact derives_of_integer run (Or.inl ends) read
    · simp [failExpecting, fail] at read

theorem name_of_read {initial : Char} {text rest : List Char} {value : String}
    (starts : startsName initial = true) (read : name initial text = .ok (value, rest)) :
    ∃ spelled, initial :: text = spelled ++ rest ∧ Name spelled ∧
      String.ofList spelled = value := by
  rw [name] at read
  split at read
  · obtain ⟨rfl, rfl⟩ := Prod.mk.inj (Except.ok.inj read)
    refine ⟨initial :: text.takeWhile continuesName, by simp, ?_, rfl⟩
    exact .intro starts fun _ member => List.mem_takeWhile_imp member
  · simp [failExpecting, fail] at read

/-! ## Bodies and terms -/

/-- Texts shorter than another one derive the programs that they are read as. -/
def SoundBelow (length : Nat) (readProgram : List Char → Except Offence Program) : Prop :=
  ∀ inner tree, inner.length < length → readProgram inner = .ok tree →
    Derives (.program tree) inner []

variable {readProgram : List Char → Except Offence Program} {text rest : List Char}

theorem derives_of_content {inner : List Char} {value : Body} {length : Nat}
    (sound : SoundBelow length readProgram) (shorter : inner.length < length)
    (read : content readProgram inner = .ok value) : Derives (.body value) inner [] := by
  rw [content] at read
  split at read
  · rename_i white
    obtain rfl := Except.ok.inj read
    exact .blank white
  · rename_i inked
    cases readEq : readProgram inner with
    | error offence => simp [readEq] at read
    | ok tree =>
        rw [readEq] at read
        obtain rfl := Except.ok.inj read
        exact .body (by simpa using inked) (sound inner tree shorter readEq)

theorem derives_of_body {delimiter : Delimiter} {value : Body}
    (sound : SoundBelow text.length readProgram)
    (read : body readProgram delimiter text = .ok (value, rest)) :
    ∃ inner, text = inner ++ delimiter.closerChar :: rest ∧ Derives (.body value) inner [] := by
  rw [body] at read
  split at read
  · simp [fail] at read
  · rename_i inner behind cut
    have textEq := eq_append_of_cutSpan cut
    split at read
    · rename_i found readContent
      obtain ⟨rfl, rfl⟩ : found = value ∧ behind = rest := by simpa using read
      refine ⟨inner, textEq, derives_of_content sound ?_ readContent⟩
      rw [textEq, List.length_append, List.length_cons]
      omega
    · simp at read

theorem derives_of_primary {initial : Char} {next : Term}
    (sound : SoundBelow text.length readProgram)
    (read : primary readProgram initial text = .ok (next, rest)) :
    Derives (.term next) (initial :: text) rest := by
  rw [primary] at read
  split at read
  · rename_i isParen
    obtain ⟨value, found, rfl⟩ := mapFirst_eq_ok_iff.mp read
    obtain ⟨inner, rfl, inside⟩ := derives_of_body sound found
    rw [isParen]
    exact .group inside
  split at read
  · rename_i isBrace
    obtain ⟨value, found, rfl⟩ := mapFirst_eq_ok_iff.mp read
    obtain ⟨inner, rfl, inside⟩ := derives_of_body sound found
    rw [isBrace]
    exact .block inside
  split at read
  · rename_i isQuote
    obtain ⟨value, found, rfl⟩ := mapFirst_eq_ok_iff.mp read
    obtain ⟨content, rfl, decoded, spells, rfl⟩ := spells_of_string found
    rw [isQuote]
    exact .str spells
  split at read
  · rename_i digit
    obtain ⟨value, found, rfl⟩ := mapFirst_eq_ok_iff.mp read
    exact derives_of_number digit found
  split at read
  · rename_i starts
    obtain ⟨value, found, rfl⟩ := mapFirst_eq_ok_iff.mp read
    obtain ⟨spelled, textEq, name, rfl⟩ := name_of_read starts found
    rw [textEq, ofName]
    split
    · rename_i isThis
      rw [← String.toList_ofList (l := spelled), isThis]
      exact .receiver
    · rename_i other
      refine .name name ?_
      rintro rfl
      exact other (String.ofList_toList)
  · simp [failExpecting, fail] at read

theorem derives_of_member {target next : Term} {start trivia : List Char} (around : Trivia trivia)
    (accessed : Derives (.term target) start (trivia ++ '.' :: text))
    (read : member target text = .ok (next, rest)) : Derives (.term next) start rest := by
  obtain ⟨more, within, textEq, _⟩ := exists_trivia text
  rw [member] at read
  split at read
  · simp [fail] at read
  · rename_i initial behind behindEq
    rw [behindEq] at textEq
    split at read
    · rename_i starts
      obtain ⟨value, found, rfl⟩ := mapFirst_eq_ok_iff.mp read
      obtain ⟨spelled, spelledEq, name, rfl⟩ := name_of_read starts found
      rw [textEq, spelledEq] at accessed
      exact .member (by simpa using accessed) around within name
    · simp [fail] at read

theorem derives_of_trailer {initial : Char} {target next : Term} {start trivia : List Char}
    (sound : SoundBelow text.length readProgram) (around : Trivia trivia)
    (begun : Derives (.term target) start (trivia ++ initial :: text))
    (read : trailer readProgram target initial text = .ok (next, rest)) :
    Derives (.term next) start rest := by
  rw [trailer] at read
  split at read
  · rename_i isParen
    obtain ⟨value, found, rfl⟩ := mapFirst_eq_ok_iff.mp read
    obtain ⟨inner, rfl, inside⟩ := derives_of_body sound found
    rw [isParen] at begun
    exact .call (by simpa [Delimiter.closerChar] using begun) around inside
  split at read
  · rename_i isPoint
    rw [isPoint] at begun
    exact derives_of_member around begun read
  · simp [failExpecting, fail] at read

end Reading

/-! ## Programs -/

/-- What a turn of the reader does with a text, and what is read of the text in the end. -/
inductive Reading.Turn (draft : Draft) : List Char → Except Offence Program → Prop
  | finish {trivia : List Char} (around : Trivia trivia) : Turn draft trivia (.ok draft.finish)
  | comma {trivia rest : List Char} (around : Trivia trivia) :
      Turn draft (trivia ++ ',' :: rest) (program draft.closeSlot rest)
  | semicolon {trivia rest : List Char} (around : Trivia trivia) :
      Turn draft (trivia ++ ';' :: rest) (program draft.closeSegment rest)
  | stop {trivia rest : List Char} {initial : Char} {offence : Offence} (around : Trivia trivia)
      (token : isTrivia initial = false) (separator : initial ≠ ',' ∧ initial ≠ ';')
      (read : term (program Draft.empty) draft.term initial rest = .error offence) :
      Turn draft (trivia ++ initial :: rest) (.error offence)
  | term {trivia rest behind : List Char} {initial : Char} {next : Term} (around : Trivia trivia)
      (token : startsToken initial = true)
      (read : term (program Draft.empty) draft.term initial rest = .ok (next, behind)) :
      Turn draft (trivia ++ initial :: rest) (program { draft with term := some next } behind)

theorem Reading.program_turn (draft : Draft) (text : List Char) :
    Turn draft text (program draft text) := by
  obtain ⟨trivia, around, textEq, token⟩ := exists_trivia text
  rw [program_eq]
  cases behindEq : text.dropWhile isTrivia with
  | nil =>
      rw [behindEq, List.append_nil] at textEq
      rw [textEq]
      exact .finish around
  | cons initial rest =>
      rw [behindEq] at textEq
      simp only
      split
      · rename_i isComma
        rw [textEq, isComma]
        exact .comma around
      rename_i notComma
      split
      · rename_i isSemicolon
        rw [textEq, isSemicolon]
        exact .semicolon around
      rename_i notSemicolon
      rw [textEq]
      cases read : term (program Draft.empty) draft.term initial rest with
      | error offence => exact .stop around (token _ _ behindEq) ⟨notComma, notSemicolon⟩ read
      | ok found =>
          rcases found with ⟨next, behind⟩
          have starts : startsToken initial = true := by
            simp [startsToken, token _ _ behindEq, notComma, notSemicolon]
          exact .term around starts read

/-- A turn that reads a primary or a trailer reaches the text behind it. -/
theorem Reached.term {source text rest : List Char} {draft : Draft} {initial : Char} {next : Term}
    {readProgram : List Char → Except Offence Program}
    (reached : Reached source draft (initial :: text))
    (sound : Reading.SoundBelow text.length readProgram)
    (read : Reading.term readProgram draft.term initial text = .ok (next, rest)) :
    Reached source { draft with term := some next } rest := by
  rcases reached with ⟨start, begins, begun⟩
  refine ⟨start, begins, ?_⟩
  cases termEq : draft.term with
  | none =>
      rw [termEq] at begun read
      exact begun.primary (Reading.derives_of_primary sound read)
  | some target =>
      rw [termEq] at begun read
      exact begun.trailer fun _ trivia around derives =>
        Reading.derives_of_trailer sound around derives read

/-- A text that is read up to its end derives what it is read as. -/
theorem Reached.derives {source text : List Char} {draft : Draft} {tree : Program}
    (reached : Reached source draft text) (read : Reading.program draft text = .ok tree) :
    Derives (.program tree) source [] := by
  induction lengthEq : text.length using Nat.strong_induction_on
    generalizing source draft text tree with
  | _ length ih =>
      have turn := Reading.program_turn draft text
      generalize Reading.program draft text = result at turn read
      cases turn with
      | finish around =>
          obtain rfl := Except.ok.inj read
          rw [← List.append_nil text] at reached
          exact (reached.past_trivia around).finish
      | @comma trivia rest around =>
          rw [List.length_append, List.length_cons] at lengthEq
          exact ih rest.length (by omega) (reached.past_trivia around).comma read rfl
      | @semicolon trivia rest around =>
          rw [List.length_append, List.length_cons] at lengthEq
          exact ih rest.length (by omega) (reached.past_trivia around).semicolon read rfl
      | stop => cases read
      | @term trivia rest behind initial next around _ termed =>
          rw [List.length_append, List.length_cons] at lengthEq
          have sound : Reading.SoundBelow rest.length (Reading.program Draft.empty) :=
            fun inner tree shorter readInner =>
              ih inner.length (by omega) (Reached.start inner) readInner rfl
          have shorter := (Reading.suffix_of_term termed).length_le
          have reachedNext := (reached.past_trivia around).term sound termed
          exact ih behind.length (by omega) reachedNext read rfl

/-- A text derives the program that it is read as. -/
theorem derives_of_read {tree : Program} {text : List Char}
    (read : Reading.program Draft.empty text = .ok tree) : Derives (.program tree) text [] :=
  (Reached.start text).derives read

/-- A text is read as a program exactly when it derives the program. -/
theorem read_eq_ok_iff {tree : Program} {text : List Char} :
    Reading.program Draft.empty text = .ok tree ↔ Derives (.program tree) text [] :=
  ⟨derives_of_read, Derives.read⟩

end Focal.Syntax
