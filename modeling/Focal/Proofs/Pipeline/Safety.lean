import Focal.Proofs.Pipeline.Compile

/-!
# Compilation is safe

The cursor checks every read and every move: that it stays inside the padded bytes and the text, that
a slice lies between two characters of the text, that a line has a number the text can have, that a
turn of a loop reads something and a body is shorter than the text around it.  None of these checks
ever fails (`compile_safe`), whatever the source holds.

The scan of a source scans the source itself and the bodies it cuts out (`Scanned`), each in turns
(`Arrives`).  Before every turn the cursor stands between two characters (`Arrives.exists_between`),
and the turn either ends the scan of the text, or finds what is wrong with it, or leads on to such a
place (`exists_programTurn`).
-/

namespace Focal

open Source Syntax
open Source.Cursor (isTrivia)
open Text (terminators Whole)

namespace Syntax

/-! ## The scan of a source -/

/-- The scan of a text comes to a turn with a draft and a cursor. -/
inductive Arrives (text : String) (line lastLine : Nat) : Draft → Cursor → Prop
  | start : Arrives text line lastLine Draft.empty (Cursor.atLine text line lastLine)
  | turn {draft next : Draft} {cursor after : Cursor}
      (before : Arrives text line lastLine draft cursor)
      (turned : programTurn (readShorter text lastLine) draft cursor = .ok (.next next after)) :
      Arrives text line lastLine next after

/-- A body is cut out at the first token behind a cursor, on a line. -/
def CutsBody (cursor : Cursor) (body : String) (line : Nat) : Prop :=
  ∃ token delimiter, cursor.skipTrivia = .ok token ∧
    token.current = .ok (Delimiter.opener delimiter) ∧ token.line = line ∧
    ∃ span after, token.skipSpan delimiter.opener delimiter.closer = .ok (some span, after) ∧
      after.slice span.start span.stop = .ok body

/-- The scan of a source scans a text whose first byte is on a line: the source itself, or a body of
a text that it scans. -/
inductive Scanned (source : String) : String → Nat → Prop
  | source : Scanned source source 1
  | body {text body : String} {line bodyLine : Nat} {draft : Draft} {cursor : Cursor}
      (around : Scanned source text line)
      (arrives : Arrives text line (Cursor.lastLineFrom 1 source) draft cursor)
      (cut : CutsBody cursor body bodyLine) : Scanned source body bodyLine

/-! ## What is safe -/

/-- At least one zero follows the text, as the mark of its end. -/
structure PaddedSafely (text : String) : Prop where
  length_eq : (PaddedText.ofString text).length = text.utf8ByteSize
  length_lt : text.utf8ByteSize < (PaddedText.ofString text).bytes.size
  end_mark : (PaddedText.ofString text).bytes[text.utf8ByteSize]? = some 0

/-- A turn starts between two characters of the text, on a line that 32 bits can number; no check of
the cursor fails in it; it reads at least one byte if another one follows; and a body that it cuts
out is shorter than the text. -/
structure TurnsSafely (text : String) (lastLine : Nat) (draft : Draft) (cursor : Cursor) :
    Prop where
  position_le : cursor.position ≤ text.utf8ByteSize
  boundary : (PaddedText.ofString text).isBoundary cursor.position = true
  line_lt : cursor.line < UInt32.size
  no_fault : ∀ fault, programTurn (readShorter text lastLine) draft cursor ≠ .error (.fault fault)
  advances : ∀ next after,
    programTurn (readShorter text lastLine) draft cursor = .ok (.next next after) →
      cursor.position < after.position
  body_shorter : ∀ body line, CutsBody cursor body line → body.utf8ByteSize < text.utf8ByteSize

theorem paddedSafely (text : String) : PaddedSafely text where
  length_eq := length_ofString text
  length_lt := by
    have larger := PaddedText.lt_paddedSize (encode text.toList).length
    rw [ofString_eq_padded, ← ByteArray.size_data, ← Array.length_toList, toList_bytes_padded,
      List.length_append, List.length_replicate, ← length_encode_toList]
    omega
  end_mark := by
    have atEnd := getElem?_bytes_padded text.toList []
    rwa [List.append_nil, ← ofString_eq_padded, length_encode_toList] at atEnd

/-! ## Turns -/

section Turns

variable {text : String} {line lastLine : Nat} {draft : Draft} {cursor : Cursor}

/-- What a turn between two parts of a text does. -/
theorem exists_programTurn_of_room {before rest : List Char} (draft : Draft)
    (textEq : text.toList = before ++ rest) (whole : Whole before rest)
    (room : line + terminators text.toList ≤ lastLine) :
    let turn := programTurn (readShorter text lastLine) draft
      (Cursor.between line lastLine before rest)
    (∃ tree after, turn = .ok (.stop tree after)) ∨
      (∃ error, turn = .error (.invalid error)) ∨
      ∃ next read behind, rest = read ++ behind ∧ read ≠ [] ∧ Whole (before ++ read) behind ∧
        turn = .ok (.next next (Cursor.between line lastLine (before ++ read) behind)) := by
  have settles := readShorter_settles lastLine text.toList
  have within : (encode rest).length ≤ (encode text.toList).length := by
    rw [textEq, encode_append, List.length_append]
    omega
  rw [String.ofList_toList] at settles
  rcases exists_programTurn line lastLine settles draft whole (textEq ▸ room) within with
    ⟨turned, _⟩ | ⟨_, _, _, _, turned, _⟩ | ⟨next, read, behind, restEq, nonempty, wholeRead, turned, _⟩
  · exact Or.inl ⟨_, _, turned⟩
  · exact Or.inr (Or.inl ⟨_, turned⟩)
  · exact Or.inr (Or.inr ⟨next, read, behind, restEq, nonempty, wholeRead, turned⟩)

/-- Before every turn the cursor stands between two parts of the text. -/
theorem Arrives.exists_between (arrives : Arrives text line lastLine draft cursor)
    (room : line + terminators text.toList ≤ lastLine) :
    ∃ before rest, text.toList = before ++ rest ∧ Whole before rest ∧
      cursor = Cursor.between line lastLine before rest := by
  induction arrives with
  | start =>
      exact ⟨[], text.toList, rfl, Whole.nil_left _, Cursor.atLine_eq_between text line lastLine⟩
  | @turn draft next cursor after _ turned ih =>
      obtain ⟨before, rest, textEq, whole, rfl⟩ := ih
      rcases exists_programTurn_of_room draft textEq whole room with
        ⟨_, _, turnEq⟩ | ⟨_, turnEq⟩ | ⟨_, read, behind, rfl, _, wholeRead, turnEq⟩
      · cases turned.symm.trans turnEq
      · cases turned.symm.trans turnEq
      · obtain ⟨rfl, rfl⟩ : next = _ ∧ after = _ := by simpa using turned.symm.trans turnEq
        exact ⟨before ++ read, behind, by simp [textEq], wholeRead, rfl⟩

/-- What is cut out stands between delimiters behind the trivia at the cursor. -/
theorem CutsBody.exists_eq {first last bodyLine : Nat} {before rest : List Char} {body : String}
    (cut : CutsBody (Cursor.between first last before rest) body bodyLine)
    (whole : Whole before rest) (room : first + terminators (before ++ rest) ≤ last) :
    ∃ delimiter trivia behind,
      rest = trivia ++ Delimiter.openerChar delimiter ::
        (body.toList ++ delimiter.closerChar :: behind) ∧
      bodyLine = first + terminators (before ++ trivia) := by
  rcases cut with ⟨token, delimiter, skipped, atOpener, rfl, sliced⟩
  have textEq := List.takeWhile_append_dropWhile (p := isTrivia) (l := rest)
  rw [Cursor.skipTrivia_between first last whole room] at skipped
  obtain rfl := Except.ok.inj skipped
  generalize rest.takeWhile isTrivia = trivia at *
  generalize rest.dropWhile isTrivia = opened at *
  subst textEq
  rw [Cursor.current_between, Except.ok.injEq] at atOpener
  have headEq : opened.head? = some delimiter.openerChar := by
    simpa [atOpener] using (opener_beq_leadByte delimiter opened).symm
  obtain ⟨inner, rfl⟩ := List.head?_eq_some_iff.mp headEq
  obtain ⟨behind, found⟩ := (exists_slice_iff first last (by simpa using room)).mp sliced
  exact ⟨delimiter, trivia, behind, by rw [eq_append_of_cutSpan found], rfl⟩

/-- A body that is cut out is shorter than the text, and none of its lines has a number above the
last one of the text. -/
theorem Arrives.body_within (arrives : Arrives text line lastLine draft cursor)
    (room : line + terminators text.toList ≤ lastLine) {body : String} {bodyLine : Nat}
    (cut : CutsBody cursor body bodyLine) :
    body.utf8ByteSize < text.utf8ByteSize ∧ bodyLine + terminators body.toList ≤ lastLine := by
  obtain ⟨before, rest, textEq, whole, rfl⟩ := arrives.exists_between room
  obtain ⟨delimiter, trivia, behind, rfl, rfl⟩ := cut.exists_eq whole (textEq ▸ room)
  have positive := Cursor.length_encode_pos (List.cons_ne_nil delimiter.closerChar behind)
  have counted := terminators_opened delimiter (before ++ trivia)
    (Whole.of_head_inside body.toList behind (delimiter_inside delimiter).2)
  rw [← List.append_assoc] at textEq
  constructor
  · rw [← length_encode_toList, ← length_encode_toList, textEq]
    simp only [encode_append, encode_cons, List.length_append] at positive ⊢
    omega
  · rw [textEq, counted] at room
    omega

/-- Every turn is safe. -/
theorem Arrives.turnsSafely (arrives : Arrives text line lastLine draft cursor)
    (room : line + terminators text.toList ≤ lastLine) (small : lastLine < UInt32.size) :
    TurnsSafely text lastLine draft cursor := by
  have shorter := fun body bodyLine (cut : CutsBody cursor body bodyLine) =>
    (arrives.body_within room cut).1
  obtain ⟨before, rest, textEq, whole, rfl⟩ := arrives.exists_between room
  have turned := exists_programTurn_of_room draft textEq whole room
  have sizeEq : text.utf8ByteSize = (encode before).length + (encode rest).length := by
    rw [← length_encode_toList, textEq, encode_append, List.length_append]
  refine ⟨?_, ?_, ?_, ?_, ?_, shorter⟩
  · rw [Cursor.position_between, sizeEq]
    exact Nat.le_add_right _ _
  · rw [ofString_eq_padded, textEq]
    exact isBoundary_padded before rest
  · rw [textEq, Text.terminators_append whole] at room
    rw [Cursor.line_between]
    omega
  · intro fault faulty
    rcases turned with ⟨_, _, turnEq⟩ | ⟨_, turnEq⟩ | ⟨_, _, _, _, _, _, turnEq⟩ <;>
      cases faulty.symm.trans turnEq
  · intro next after moved
    rcases turned with ⟨_, _, turnEq⟩ | ⟨_, turnEq⟩ | ⟨_, read, _, _, nonempty, _, turnEq⟩
    · cases moved.symm.trans turnEq
    · cases moved.symm.trans turnEq
    · obtain ⟨rfl, rfl⟩ : next = _ ∧ after = _ := by simpa using moved.symm.trans turnEq
      simpa using Cursor.length_encode_pos nonempty

/-- A text that is scanned is no longer than the source, and none of its lines has a number above
the last one of the source. -/
theorem Scanned.within {source : String} (scanned : Scanned source text line) :
    text.utf8ByteSize ≤ source.utf8ByteSize ∧
      line + terminators text.toList ≤ Cursor.lastLineFrom 1 source := by
  induction scanned with
  | source => exact ⟨Nat.le_refl _, source_room source⟩
  | body _ arrives cut ih =>
      obtain ⟨shorter, room⟩ := arrives.body_within ih.2 cut
      exact ⟨shorter.le.trans ih.1, room⟩

end Turns

end Syntax

/-! ## Compilation -/

/-- No source leads to a fault. -/
theorem compile_no_fault {ι : Type} (source : String) :
    (∃ pipeline : Pipeline ι (Value ι), compile source = .ok pipeline) ∨
      ∃ error, (compile source : Except Failure (Pipeline ι (Value ι))) =
        .error (.invalid error) := by
  have settled := ofSource_settles source
  cases read : Reading.program Draft.empty source.toList with
  | ok tree => exact Or.inl ⟨_, compile_of_read read⟩
  | error offence =>
      rw [read] at settled
      rcases settled with ⟨before, _, _, scanned⟩
      refine Or.inr ⟨{ line := 1 + terminators before, kind := offence.kind }, ?_⟩
      rw [compile, scanned]
      rfl

/-- A source that 32 bits can measure compiles or fails with a syntax error, and on the way there
every text is padded safely and every turn over it is safe. -/
theorem compile_safe (ι : Type) (source : String) (small : source.utf8ByteSize ≤ UInt32.size - 2) :
    ((∃ pipeline : Pipeline ι (Value ι), compile source = .ok pipeline) ∨
      ∃ error, (compile source : Except Failure (Pipeline ι (Value ι))) =
        .error (.invalid error)) ∧
    ∀ text line, Scanned source text line →
      text.utf8ByteSize ≤ source.utf8ByteSize ∧ PaddedSafely text ∧
      ∀ draft cursor, Arrives text line (Cursor.lastLineFrom 1 source) draft cursor →
        TurnsSafely text (Cursor.lastLineFrom 1 source) draft cursor := by
  refine ⟨compile_no_fault source, fun text line scanned => ?_⟩
  obtain ⟨shorter, room⟩ := scanned.within
  have lastLt : Cursor.lastLineFrom 1 source < UInt32.size := by
    rw [Cursor.lastLineFrom, UInt32.size]
    rw [UInt32.size] at small
    omega
  exact ⟨shorter, paddedSafely text, fun draft cursor arrives => arrives.turnsSafely room lastLt⟩

/-- A NUL in parentheses: the first turn over the body. -/
theorem compile_safe_nested :
    "(\x00)".utf8ByteSize ≤ UInt32.size - 2 ∧ Scanned "(\x00)" "\x00" 1 ∧
      TurnsSafely "\x00" (Cursor.lastLineFrom 1 "(\x00)") Draft.empty
        (Cursor.atLine "\x00" 1 (Cursor.lastLineFrom 1 "(\x00)")) := by
  have small : "(\x00)".utf8ByteSize ≤ UInt32.size - 2 := by decide
  have room := source_room "(\x00)"
  have whole : Whole [] "(\x00)".toList := Whole.nil_left _
  have cut : CutsBody (Cursor.atLine "(\x00)" 1 (Cursor.lastLineFrom 1 "(\x00)")) "\x00" 1 := by
    rw [Cursor.atLine_eq_between]
    exact ⟨_, .paren, Cursor.skipTrivia_between 1 _ whole room, Cursor.current_between _ _, rfl,
      (exists_slice_iff 1 _ room).mpr ⟨[], rfl⟩⟩
  have scanned : Scanned "(\x00)" "\x00" 1 := .body .source .start cut
  exact ⟨small, scanned, ((compile_safe Unit "(\x00)" small).2 _ _ scanned).2.2 _ _ .start⟩

end Focal
