import Focal.Proofs.Source.Padding
import Focal.Proofs.Source.Positions

/-!
# Stepping through a source

The first byte of a character says from how many bytes a cursor reads the character and over how many
it steps.  A cursor that does both until it is at the end reads a source as it is: the characters in
their order, zeros among them, each at the boundary in front of it, and it comes to every boundary
of the source once (`readChars_exact`).
-/

namespace Focal.Source

/-! ## Characters at their positions -/

/-- The characters of a text, each with the position of its first byte, where the first character
has a given position. -/
def placed : Nat → List Char → List (Nat × Char)
  | _, [] => []
  | start, character :: rest => (start, character) :: placed (start + character.utf8Size) rest

theorem map_snd_placed (start : Nat) (text : List Char) :
    (placed start text).map Prod.snd = text := by
  induction text generalizing start with
  | nil => rfl
  | cons character rest ih => rw [placed, List.map_cons, ih]

/-- A character has the position behind the bytes of the characters in front of it. -/
theorem mem_placed_iff {start position : Nat} {character : Char} {text : List Char} :
    (position, character) ∈ placed start text ↔
      ∃ before rest, text = before ++ character :: rest ∧
        position = start + (encode before).length := by
  induction text generalizing start with
  | nil => simp [placed]
  | cons first rest ih =>
      rw [placed, List.mem_cons, ih]
      constructor
      · rintro (isFirst | ⟨before, behind, rfl, rfl⟩)
        · obtain ⟨rfl, rfl⟩ := Prod.mk.inj isFirst
          exact ⟨[], rest, rfl, rfl⟩
        · exact ⟨first :: before, behind, rfl, by simp [Nat.add_assoc]⟩
      · rintro ⟨before, behind, textEq, rfl⟩
        cases before with
        | nil =>
            obtain ⟨rfl, rfl⟩ := List.cons.inj textEq
            exact Or.inl rfl
        | cons other before =>
            obtain ⟨rfl, rfl⟩ := List.cons.inj textEq
            exact Or.inr ⟨before, behind, rfl, by simp [Nat.add_assoc]⟩

/-- The positions at which the characters of a text start, and the one at which the text ends. -/
def boundaries (start : Nat) (text : List Char) : List Nat :=
  (placed start text).map Prod.fst ++ [start + (encode text).length]

@[simp]
theorem boundaries_nil (start : Nat) : boundaries start [] = [start] :=
  rfl

@[simp]
theorem boundaries_cons (start : Nat) (character : Char) (rest : List Char) :
    boundaries start (character :: rest) =
      start :: boundaries (start + character.utf8Size) rest := by
  simp [boundaries, placed, Nat.add_assoc]

/-- The boundaries of a text are its cuts. -/
theorem mem_boundaries_iff {start position : Nat} {text : List Char} :
    position ∈ boundaries start text ↔
      ∃ before rest, text = before ++ rest ∧ position = start + (encode before).length := by
  simp only [boundaries, List.mem_append, List.mem_map, Prod.exists, mem_placed_iff,
    List.mem_singleton]
  constructor
  · rintro (⟨_, character, ⟨before, rest, rfl, rfl⟩, rfl⟩ | rfl)
    · exact ⟨before, character :: rest, rfl, rfl⟩
    · exact ⟨text, [], (List.append_nil text).symm, rfl⟩
  · rintro ⟨before, rest, rfl, rfl⟩
    cases rest with
    | nil => exact Or.inr (by rw [List.append_nil])
    | cons character rest => exact Or.inl ⟨_, character, ⟨before, rest, rfl, rfl⟩, rfl⟩

theorem pairwise_boundaries (start : Nat) (text : List Char) :
    (boundaries start text).Pairwise (· < ·) := by
  induction text generalizing start with
  | nil => simp
  | cons character rest ih =>
      rw [boundaries_cons, List.pairwise_cons]
      refine ⟨?_, ih _⟩
      intro position member
      obtain ⟨before, _, _, rfl⟩ := mem_boundaries_iff.mp member
      have positive := character.utf8Size_pos
      omega

/-- The boundaries between the characters of a source are its cuts. -/
theorem isValid_iff_exists_cut {source : String} {position : Nat} :
    String.Pos.Raw.IsValid source ⟨position⟩ ↔
      ∃ before rest, source.toList = before ++ rest ∧ position = (encode before).length := by
  rw [String.Pos.Raw.isValid_iff_exists_append]
  constructor
  · rintro ⟨before, rest, rfl, positionEq⟩
    refine ⟨before.toList, rest.toList, String.toList_append, ?_⟩
    rw [length_encode_toList]
    exact congrArg String.Pos.Raw.byteIdx positionEq
  · rintro ⟨before, rest, sourceEq, rfl⟩
    refine ⟨String.ofList before, String.ofList rest, ?_, ?_⟩
    · rw [← String.ofList_append, ← sourceEq, String.ofList_toList]
    · rw [← utf8ByteSize_ofList]
      rfl

namespace Cursor

/-! ## A cursor at a cut -/

/-- A cursor between two parts of a text, whatever line it is on. -/
structure Splits (cursor : Cursor) (before rest : List Char) : Prop where
  text_eq : cursor.text = padded (before ++ rest)
  position_eq : cursor.position = (encode before).length

variable {cursor : Cursor} {character : Char} {before rest : List Char}

/-- A cursor at a boundary of a source is at a cut of it. -/
theorem exists_splits {source : String} (textEq : cursor.text = PaddedText.ofString source)
    (valid : String.Pos.Raw.IsValid source ⟨cursor.position⟩) :
    ∃ before rest, source.toList = before ++ rest ∧ cursor.Splits before rest := by
  obtain ⟨before, rest, sourceEq, positionEq⟩ := isValid_iff_exists_cut.mp valid
  refine ⟨before, rest, sourceEq, ?_, positionEq⟩
  rw [textEq, ofString_eq_padded, sourceEq]

theorem Splits.current_eq (splits : cursor.Splits before rest) :
    cursor.current = .ok (leadByte rest) :=
  current_eq_ok splits.text_eq splits.position_eq

theorem Splits.remaining_eq (splits : cursor.Splits before rest) :
    cursor.remaining = (encode rest).length := by
  simp [remaining, splits.text_eq, splits.position_eq]

theorem Splits.isEnd_eq (splits : cursor.Splits before rest) :
    cursor.isEnd = .ok rest.isEmpty := by
  rw [← isEnd_later (Text.terminators before), later_eq_between splits.text_eq splits.position_eq,
    isEnd_between]

theorem Splits.char_eq (splits : cursor.Splits before rest) :
    cursor.char = .ok (rest.headD '\x00') := by
  rw [← char_later (Text.terminators before), later_eq_between splits.text_eq splits.position_eq,
    char_between]

/-- Stepping over a character counts no line, also when the character ends one. -/
theorem Splits.skipChar_eq (splits : cursor.Splits before (character :: rest)) :
    cursor.skipChar = .ok { cursor with position := cursor.position + character.utf8Size } := by
  have boundary : cursor.text.isBoundary cursor.position = true := by
    rw [splits.text_eq, splits.position_eq, isBoundary_padded]
  have inside : cursor.position + character.utf8Size ≤ cursor.text.length := by
    simp [splits.text_eq, splits.position_eq]
  rw [skipChar, boundary, splits.current_eq]
  simp [leadByte, charWidth_firstByte, skipBytes, inside]

theorem Splits.next (splits : cursor.Splits before (character :: rest)) :
    { cursor with position := cursor.position + character.utf8Size }.Splits
      (before ++ [character]) rest where
  text_eq := by simp [splits.text_eq]
  position_eq := by simp [splits.position_eq]

/-! ## Character after character -/

/-- Stop at the end of the text, or read the character at the cursor and step over it. -/
def charTurn (read : List (Nat × Char)) (cursor : Cursor) :
    Except Fault (Turn (List (Nat × Char)) (List (Nat × Char))) := do
  if ← cursor.isEnd then return .stop read cursor
  else
    let character ← cursor.char
    return .next (read ++ [(cursor.position, character)]) (← cursor.skipChar)

/-- The characters from the cursor to the end of the text, each with the position that it is read
at. -/
def readChars (cursor : Cursor) : Except Fault (List (Nat × Char) × Cursor) :=
  loop .stalled charTurn [] cursor

/-- Reading on from a cut adds the characters behind it and leads to the end of the text. -/
theorem Splits.loop_charTurn (splits : cursor.Splits before rest) (read : List (Nat × Char)) :
    loop .stalled charTurn read cursor =
      .ok (read ++ placed cursor.position rest,
        { cursor with position := cursor.position + (encode rest).length }) := by
  -- On the characters behind the cursor; each turn moves one of them in front of it.
  induction rest generalizing cursor before read with
  | nil =>
      apply loop_of_stop
      simp [charTurn, splits.isEnd_eq, placed, pure_eq_ok]
  | cons character rest ih =>
      let after := { cursor with position := cursor.position + character.utf8Size }
      have turned : charTurn read cursor =
          .ok (.next (read ++ [(cursor.position, character)]) after) := by
        simp [charTurn, splits.isEnd_eq, splits.char_eq, splits.skipChar_eq, pure_eq_ok, after]
      have nearer : after.remaining < cursor.remaining := by
        have positive := character.utf8Size_pos
        rw [splits.remaining_eq, splits.next.remaining_eq, encode_cons, List.length_append,
          String.length_utf8EncodeChar]
        omega
      rw [loop_of_next turned nearer, ih splits.next]
      simp [placed, Nat.add_assoc]

/-- From the start of a source to its end the characters are read at their positions.  They are the
characters of the source in their order, each is read at the boundary in front of it, and the cursor
comes to all boundaries of the source, one behind another; 32 bits hold all of them and the length
if the source has fewer than 2³² bytes.  At every boundary a cursor, whatever line it is on, is at the
end only behind the last character; otherwise it reads the character there and steps over it, and the
byte it is on tells the number of bytes of that character. -/
theorem readChars_exact (source : String) (line lastLine : Nat) :
    ∃ read,
      (atLine source line lastLine).readChars =
        .ok (read, { atLine source line lastLine with position := source.utf8ByteSize }) ∧
      read.map Prod.snd = source.toList ∧
      (∀ position character, (position, character) ∈ read ↔
        ∃ before rest, source.toList = before ++ character :: rest ∧
          position = (encode before).length) ∧
      (read.map Prod.fst ++ [source.utf8ByteSize]).Pairwise (· < ·) ∧
      (∀ position, position ∈ read.map Prod.fst ++ [source.utf8ByteSize] ↔
        String.Pos.Raw.IsValid source ⟨position⟩) ∧
      (source.utf8ByteSize < UInt32.size →
        (PaddedText.ofString source).saturated = PaddedText.ofString source ∧
          ∀ position ∈ read.map Prod.fst ++ [source.utf8ByteSize], position < UInt32.size) ∧
      ∀ cursor : Cursor, cursor.text = PaddedText.ofString source →
        String.Pos.Raw.IsValid source ⟨cursor.position⟩ →
          cursor.isEnd = .ok (decide (cursor.position = source.utf8ByteSize)) ∧
          ∀ character, (cursor.position, character) ∈ read →
            cursor.char = .ok character ∧
            (∃ lead, cursor.current = .ok lead ∧ charWidth lead = character.utf8Size) ∧
            cursor.skipChar =
              .ok { cursor with position := cursor.position + character.utf8Size } := by
  have boundariesEq : (placed 0 source.toList).map Prod.fst ++ [source.utf8ByteSize] =
      boundaries 0 source.toList := by
    rw [boundaries, length_encode_toList, Nat.zero_add]
  have atStart : (atLine source line lastLine).Splits [] source.toList :=
    ⟨ofString_eq_padded source, rfl⟩
  refine ⟨placed 0 source.toList, ?_, map_snd_placed 0 source.toList, ?_, ?_, ?_, ?_, ?_⟩
  · rw [readChars, atStart.loop_charTurn, length_encode_toList]
    simp [atLine]
  · intro position character
    simp [mem_placed_iff]
  · rw [boundariesEq]
    exact pairwise_boundaries 0 source.toList
  · intro position
    rw [boundariesEq, mem_boundaries_iff, isValid_iff_exists_cut]
    simp
  · intro small
    refine ⟨saturated_ofString small, fun position member => ?_⟩
    rw [boundariesEq, mem_boundaries_iff] at member
    obtain ⟨before, rest, sourceEq, rfl⟩ := member
    have sizeEq := length_encode_toList source
    rw [sourceEq, encode_append, List.length_append] at sizeEq
    omega
  · intro cursor textEq valid
    have inside : cursor.position ≤ source.utf8ByteSize := valid.le_rawEndPos
    refine ⟨isEnd_eq textEq inside, ?_⟩
    intro character member
    obtain ⟨before, rest, sourceEq, splits⟩ := exists_splits textEq valid
    obtain ⟨front, behind, frontEq, placedEq⟩ := mem_placed_iff.mp member
    rw [Nat.zero_add, splits.position_eq] at placedEq
    obtain ⟨rfl, rfl⟩ := cut_unique (sourceEq.symm.trans frontEq) placedEq
    exact ⟨splits.char_eq, ⟨_, splits.current_eq, charWidth_firstByte character⟩,
      splits.skipChar_eq⟩

/-- A zero inside a source is a character of it and not its end. -/
theorem readChars_exact_zero :
    let source := "é\x00a"
    let cursor : Cursor := ⟨PaddedText.ofString source, 2, 1, 9⟩
    (∃ read, (atLine source 1 9).readChars = .ok (read, { atLine source 1 9 with position := 4 }) ∧
      (2, '\x00') ∈ read) ∧
    cursor.text = PaddedText.ofString source ∧ String.Pos.Raw.IsValid source ⟨2⟩ ∧
      cursor.isEnd = .ok false ∧ cursor.char = .ok '\x00' := by
  intro source cursor
  have listEq : source.toList = ['é', '\x00', 'a'] := String.toList_ofList
  have valid : String.Pos.Raw.IsValid source ⟨2⟩ :=
    isValid_iff_exists_cut.mpr ⟨['é'], ['\x00', 'a'], listEq, by decide⟩
  obtain ⟨read, readEq, -, placedIff, -, -, -, atBoundary⟩ := readChars_exact source 1 9
  have member : (2, '\x00') ∈ read := (placedIff 2 '\x00').mpr ⟨['é'], ['a'], listEq, by decide⟩
  obtain ⟨notEnded, reads⟩ := atBoundary cursor rfl valid
  exact ⟨⟨read, readEq, member⟩, rfl, valid, notEnded, (reads '\x00' member).1⟩

end Cursor

end Focal.Source
