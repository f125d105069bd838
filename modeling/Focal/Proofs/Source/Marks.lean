import Focal.Proofs.Source.Padding
import Focal.Proofs.Source.Scans

/-!
# The next mark of a string

The scan of a string looks for the next quote, backslash or line terminator.  It does so in two
searches, one of them for carriage returns alone, and moves to the earlier of the two finds.  From
every position of a source, one inside a character among them, it comes to what a look at one byte
after another comes to (`Cursor.seekEachByte`), and that is the first of these bytes, or the end of
the source when there is none; no zero on the way counts as the end (`seekStringMark_exact`).
-/

namespace Focal.Source

/-- The first mark of a string that stands in a source from a position on. -/
structure FirstMark (source : String) (start position : Nat) (mark : UInt8) : Prop where
  start_le : start ≤ position
  byte_eq : (encode source.toList)[position]? = some mark
  marked : isStringMark mark = true
  first : ∀ earlier byte, start ≤ earlier → earlier < position →
    (encode source.toList)[earlier]? = some byte → isStringMark byte = false

/-- No mark of a string stands in a source from a position on. -/
def Unmarked (source : String) (start : Nat) : Prop :=
  ∀ position byte, start ≤ position → (encode source.toList)[position]? = some byte →
    isStringMark byte = false

/-! ## Searches -/

/-- A search looks through the bytes of a source from a position on. -/
theorem find?_ofString (source : String) (test : UInt8 → Bool) (start : Nat) :
    (PaddedText.ofString source).find? test start =
      (((encode source.toList).drop start).findIdx? test).map (start + ·) := by
  have sizeEq := length_encode_toList source
  have lengthEq := length_ofString source
  induction countEq : source.utf8ByteSize - start generalizing start with
  | zero =>
      rw [PaddedText.find?, dif_neg (by omega), List.drop_eq_nil_of_le (by omega)]
      rfl
  | succ count ih =>
      have inside : start < (encode source.toList).length := by omega
      have read := getElem?_bytes_of_getElem? (List.getElem?_eq_getElem inside)
      rw [Cursor.find?_of_read (by omega) read, List.drop_eq_getElem_cons inside,
        List.findIdx?_cons, ih (start + 1) (by omega)]
      cases test (encode source.toList)[start] with
      | true => simp
      | false => simp [Function.comp_def, Nat.add_assoc, Nat.add_comm 1]

theorem find?_isStringMark_eq_some_iff {source : String} {start position : Nat} :
    (PaddedText.ofString source).find? isStringMark start = some position ↔
      ∃ mark, FirstMark source start position mark := by
  rw [find?_ofString, Option.map_eq_some_iff]
  simp only [List.findIdx?_eq_some_iff_getElem, List.getElem_drop]
  constructor
  · rintro ⟨index, ⟨inside, marked, first⟩, rfl⟩
    rw [List.length_drop] at inside
    refine ⟨(encode source.toList)[start + index], Nat.le_add_right start index,
      List.getElem?_eq_getElem (by omega), marked, ?_⟩
    intro earlier byte behind before read
    obtain ⟨offset, rfl⟩ := Nat.exists_eq_add_of_le behind
    obtain ⟨_, rfl⟩ := List.getElem?_eq_some_iff.mp read
    simpa using first offset (by omega)
  · rintro ⟨mark, startLe, byteEq, marked, first⟩
    obtain ⟨index, rfl⟩ := Nat.exists_eq_add_of_le startLe
    obtain ⟨inside, rfl⟩ := List.getElem?_eq_some_iff.mp byteEq
    refine ⟨index, ⟨by rw [List.length_drop]; omega, marked, ?_⟩, rfl⟩
    intro offset before
    have unmarked := first (start + offset) _ (Nat.le_add_right start offset) (by omega)
      (List.getElem?_eq_getElem (by omega))
    simp [unmarked]

theorem find?_isStringMark_eq_none_iff {source : String} {start : Nat} :
    (PaddedText.ofString source).find? isStringMark start = none ↔ Unmarked source start := by
  rw [find?_ofString, Option.map_eq_none_iff, List.findIdx?_eq_none_iff]
  constructor
  · intro unmarked position byte behind read
    obtain ⟨offset, rfl⟩ := Nat.exists_eq_add_of_le behind
    refine unmarked byte (List.mem_of_getElem? (i := offset) ?_)
    rwa [List.getElem?_drop]
  · intro unmarked byte member
    obtain ⟨offset, read⟩ := List.mem_iff_getElem?.mp member
    rw [List.getElem?_drop] at read
    exact unmarked (start + offset) byte (Nat.le_add_right start offset) read

/-- A source has a first mark from a position on, or no mark there. -/
theorem exists_firstMark_or_unmarked (source : String) (start : Nat) :
    (∃ position mark, FirstMark source start position mark) ∨ Unmarked source start := by
  cases found : (PaddedText.ofString source).find? isStringMark start with
  | none => exact Or.inr (find?_isStringMark_eq_none_iff.mp found)
  | some position => exact Or.inl ⟨position, find?_isStringMark_eq_some_iff.mp found⟩

/-- A zero is no mark. -/
theorem FirstMark.mark_ne_zero {source : String} {start position : Nat} {mark : UInt8}
    (first : FirstMark source start position mark) : mark ≠ 0 := by
  rintro rfl
  exact absurd first.marked (by decide)

namespace Cursor

/-! ## One byte after another -/

/-- Stop at the end of the text or at a mark of a string, or step over one byte. -/
def seekTurn (_ : Unit) (cursor : Cursor) : Except Fault (Turn Unit (Option UInt8)) := do
  if ← cursor.isEnd then return .stop none cursor
  else
    let byte ← cursor.current
    if isStringMark byte then return .stop (some byte) cursor
    else return .next () (← cursor.skipByte)

/-- Look at one byte after another up to the next mark of a string, or to the end of the text. -/
def seekEachByte (cursor : Cursor) : Except Fault (Option UInt8 × Cursor) :=
  loop .stalled seekTurn () cursor

variable {source : String} {cursor : Cursor} {position : Nat} {mark : UInt8}

theorem moveTo_none (textEq : cursor.text = PaddedText.ofString source) :
    cursor.moveTo none = .ok (none, { cursor with position := source.utf8ByteSize }) := by
  rw [moveTo, textEq, length_ofString]
  rfl

theorem moveTo_some (textEq : cursor.text = PaddedText.ofString source)
    (byteEq : (encode source.toList)[position]? = some mark) :
    cursor.moveTo (some position) = .ok (some mark, { cursor with position }) := by
  have inside := lt_utf8ByteSize_of_getElem? byteEq
  have read := @current_eq source { cursor with position } textEq (Nat.le_of_lt inside)
  rw [byteEq, Option.getD_some] at read
  rw [moveTo, read]
  rfl

/-- Where a search has moved a cursor does not depend on where the cursor was. -/
theorem moveTo_of_position (position : Nat) (found : Option Nat) :
    { cursor with position }.moveTo found = cursor.moveTo found := by
  cases found <;> rfl

/-- Looking at one byte after another leads where a search for a mark does. -/
theorem seekEachByte_eq (textEq : cursor.text = PaddedText.ofString source)
    (inside : cursor.position ≤ source.utf8ByteSize) :
    cursor.seekEachByte = cursor.moveTo (cursor.text.find? isStringMark cursor.position) := by
  have sizeEq : cursor.text.length = source.utf8ByteSize := by rw [textEq, length_ofString]
  rw [seekEachByte]
  -- On the bytes up to the end: the loop moves the cursor, where the search moves a position alone.
  induction countEq : source.utf8ByteSize - cursor.position generalizing cursor with
  | zero =>
      have atEnd : cursor.position = source.utf8ByteSize := by omega
      have unmoved : { cursor with position := source.utf8ByteSize } = cursor := by rw [← atEnd]
      rw [PaddedText.find?, dif_neg (by omega), moveTo_none textEq, unmoved]
      apply loop_of_stop
      simp [seekTurn, isEnd_eq textEq inside, atEnd, pure_eq_ok]
  | succ count ih =>
      have before : cursor.position < source.utf8ByteSize := by omega
      obtain ⟨byte, byteEq⟩ := exists_getElem?_of_lt before
      have read := getElem?_bytes_of_getElem? byteEq
      rw [← textEq] at read
      have atByte : cursor.current = .ok byte := by rw [current, byteAt, read]
      have notEnded : cursor.isEnd = .ok false := by
        rw [isEnd_eq textEq inside, decide_eq_false (Nat.ne_of_lt before)]
      rw [find?_of_read (by omega) read]
      cases marked : isStringMark byte with
      | true =>
          rw [if_pos rfl, moveTo_some textEq byteEq]
          apply loop_of_stop
          simp [seekTurn, notEnded, atByte, marked, pure_eq_ok]
      | false =>
          let after := { cursor with position := cursor.position + 1 }
          have stepped : cursor.skipByte = .ok after := by
            rw [skipByte, skipBytes, if_pos (by omega)]
          have nearer : after.remaining < cursor.remaining := by
            simp only [remaining, after]
            omega
          have turned : seekTurn () cursor = .ok (.next () after) := by
            simp [seekTurn, notEnded, atByte, marked, stepped, pure_eq_ok]
          rw [if_neg Bool.false_ne_true, ← moveTo_of_position (cursor.position + 1),
            loop_of_next turned nearer]
          exact ih textEq before sizeEq (by simp only [after]; omega)

theorem seekStringMark_of_firstMark (textEq : cursor.text = PaddedText.ofString source)
    (inside : cursor.position ≤ source.utf8ByteSize)
    (first : FirstMark source cursor.position position mark) :
    cursor.seekStringMark = .ok (some mark, { cursor with position }) := by
  have found : cursor.text.find? isStringMark cursor.position = some position := by
    rw [textEq]
    exact find?_isStringMark_eq_some_iff.mpr ⟨mark, first⟩
  rw [seekStringMark_eq (by rwa [textEq, length_ofString]), found, moveTo_some textEq first.byte_eq]

theorem seekStringMark_of_unmarked (textEq : cursor.text = PaddedText.ofString source)
    (inside : cursor.position ≤ source.utf8ByteSize)
    (unmarked : Unmarked source cursor.position) :
    cursor.seekStringMark = .ok (none, { cursor with position := source.utf8ByteSize }) := by
  have unfound : cursor.text.find? isStringMark cursor.position = none := by
    rw [textEq]
    exact find?_isStringMark_eq_none_iff.mpr unmarked
  rw [seekStringMark_eq (by rwa [textEq, length_ofString]), unfound, moveTo_none textEq]

/-- From every position of a source the two searches come to what a look at each byte comes to.  If a
mark stands there or further on, the cursor moves to the first one and the result is its byte;
otherwise it moves to the end of the source and there is no mark, for which zero stands as a byte.
So the byte is zero exactly when the source has ended.  In a source of fewer than 2³² bytes, 32 bits
hold the length and the position. -/
theorem seekStringMark_exact (textEq : cursor.text = PaddedText.ofString source)
    (inside : cursor.position ≤ source.utf8ByteSize) :
    cursor.seekStringMark = cursor.seekEachByte ∧
    (∀ position mark,
      cursor.seekStringMark = .ok (some mark, { cursor with position }) ↔
        FirstMark source cursor.position position mark) ∧
    (cursor.seekStringMark = .ok (none, { cursor with position := source.utf8ByteSize }) ↔
      Unmarked source cursor.position) ∧
    ∃ mark position, cursor.seekStringMark = .ok (mark, { cursor with position }) ∧
      (mark.getD 0 = 0 ↔ position = source.utf8ByteSize) ∧
      (source.utf8ByteSize < UInt32.size →
        cursor.text.saturated = cursor.text ∧ position < UInt32.size) := by
  have holds (small : source.utf8ByteSize < UInt32.size) : cursor.text.saturated = cursor.text := by
    rw [textEq, saturated_ofString small]
  have agrees : cursor.seekStringMark = cursor.seekEachByte := by
    rw [seekEachByte_eq textEq inside, seekStringMark_eq (by rwa [textEq, length_ofString])]
  rcases exists_firstMark_or_unmarked source cursor.position with ⟨found, mark, first⟩ | unmarked
  · have sought := seekStringMark_of_firstMark textEq inside first
    have before := lt_utf8ByteSize_of_getElem? first.byte_eq
    refine ⟨agrees, ?_, ?_, some mark, found, sought, ?_,
      fun small => ⟨holds small, before.trans small⟩⟩
    · intro position other
      constructor
      · intro soughtOther
        obtain ⟨rfl, rfl⟩ : mark = other ∧ found = position := by simpa [sought] using soughtOther
        exact first
      · exact seekStringMark_of_firstMark textEq inside
    · constructor
      · intro soughtNone
        simp [sought] at soughtNone
      · exact seekStringMark_of_unmarked textEq inside
    · simp [first.mark_ne_zero, Nat.ne_of_lt before]
  · have sought := seekStringMark_of_unmarked textEq inside unmarked
    refine ⟨agrees, ?_, ⟨fun _ => unmarked, fun _ => sought⟩, none, _, sought, by simp,
      fun small => ⟨holds small, small⟩⟩
    intro position mark
    constructor
    · intro soughtSome
      simp [sought] at soughtSome
    · exact seekStringMark_of_firstMark textEq inside

/-- From inside a character, behind a zero, a carriage return stands before the quote. -/
theorem seekStringMark_exact_return :
    let source := "é\x00\r\""
    let cursor : Cursor := ⟨PaddedText.ofString source, 1, 1, 9⟩
    cursor.text = PaddedText.ofString source ∧ cursor.position ≤ source.utf8ByteSize ∧
      cursor.seekStringMark = .ok (some byteReturn, { cursor with position := 3 }) := by
  intro source cursor
  have inside : cursor.position ≤ source.utf8ByteSize := by decide
  have bytesEq : encode source.toList = [0xC3, 0xA9, 0x00, 0x0D, 0x22] := by decide +kernel
  have first : FirstMark source cursor.position 3 byteReturn := by
    constructor
    case start_le => decide
    case byte_eq => rw [bytesEq]; rfl
    case marked => rfl
    case first =>
      intro earlier byte behind before byteEq
      have between : earlier = 1 ∨ earlier = 2 := by
        have startEq : cursor.position = 1 := rfl
        omega
      rw [bytesEq] at byteEq
      rcases between with rfl | rfl
      · rw [← Option.some.inj byteEq]
        rfl
      · rw [← Option.some.inj byteEq]
        rfl
  exact ⟨rfl, inside, ((seekStringMark_exact rfl inside).2.1 3 byteReturn).mpr first⟩

end Cursor

end Focal.Source
