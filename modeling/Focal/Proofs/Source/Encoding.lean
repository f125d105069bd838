import Focal.Source.Cursor
import Mathlib.Data.List.Basic

/-!
# Padded texts as lists of characters

The bytes of a padded text are the encodings of its characters one after another and the zeros
behind them (`getElem?_bytes`).  Of the bytes of a character the first one tells how many there are
(`charWidth_firstByte`), and only the others are continuation bytes.  An ASCII character is its only
byte and the byte of no other character (`firstByte_beq`).
-/

namespace Focal.Source

/-- The bytes of characters in UTF-8. -/
def encode (characters : List Char) : List UInt8 :=
  characters.flatMap String.utf8EncodeChar

@[simp]
theorem encode_nil : encode [] = [] :=
  rfl

@[simp]
theorem encode_cons (character : Char) (rest : List Char) :
    encode (character :: rest) = String.utf8EncodeChar character ++ encode rest :=
  rfl

@[simp]
theorem encode_append (first second : List Char) :
    encode (first ++ second) = encode first ++ encode second :=
  List.flatMap_append

theorem utf8Encode_eq_encode (characters : List Char) :
    characters.utf8Encode = (encode characters).toByteArray :=
  rfl

theorem utf8ByteSize_ofList (characters : List Char) :
    (String.ofList characters).utf8ByteSize = (encode characters).length := by
  simp [← String.size_toByteArray, utf8Encode_eq_encode]

theorem length_encode_toList (text : String) : (encode text.toList).length = text.utf8ByteSize := by
  rw [← utf8ByteSize_ofList, String.ofList_toList]

theorem length_le_length_encode (characters : List Char) :
    characters.length ≤ (encode characters).length := by
  induction characters with
  | nil => exact Nat.le_refl 0
  | cons character rest ih =>
      have positive := character.utf8Size_pos
      rw [encode_cons, List.length_cons, List.length_append, String.length_utf8EncodeChar]
      omega

/-! ## The first byte of a character -/

/-- The first byte of a character in UTF-8. -/
def firstByte (character : Char) : UInt8 :=
  (String.utf8EncodeChar character).headD 0

theorem utf8EncodeChar_eq_cons (character : Char) :
    String.utf8EncodeChar character =
      firstByte character :: (String.utf8EncodeChar character).tail := by
  have nonempty := @String.utf8EncodeChar_ne_nil character
  cases bytesEq : String.utf8EncodeChar character with
  | nil => exact absurd bytesEq nonempty
  | cons byte bytes => simp [firstByte, bytesEq]

/-- Code points end below 0x110000. -/
private theorem val_lt (character : Char) : character.val.toNat < 0x110000 := by
  have valid := character.valid
  simp only [UInt32.isValidChar, Nat.isValidChar] at valid
  omega

private theorem charWidth_ofNat {value : Nat} (small : value < 256) :
    charWidth (UInt8.ofNat value) =
      if 0xC0 ≤ value ∧ value ≤ 0xDF then 2
      else if 0xE0 ≤ value ∧ value ≤ 0xEF then 3
      else if 0xF0 ≤ value ∧ value ≤ 0xF7 then 4
      else 1 := by
  have every : ∀ index : Fin 256, charWidth (UInt8.ofNat index.val) =
      if 0xC0 ≤ index.val ∧ index.val ≤ 0xDF then 2
      else if 0xE0 ≤ index.val ∧ index.val ≤ 0xEF then 3
      else if 0xF0 ≤ index.val ∧ index.val ≤ 0xF7 then 4
      else 1 := by decide +kernel
  exact every ⟨value, small⟩

private theorem isContinuation_ofNat {value : Nat} (small : value < 256) :
    PaddedText.isContinuation (UInt8.ofNat value) = decide (0x80 ≤ value ∧ value < 0xC0) := by
  have every : ∀ index : Fin 256, PaddedText.isContinuation (UInt8.ofNat index.val) =
      decide (0x80 ≤ index.val ∧ index.val < 0xC0) := by decide +kernel
  exact every ⟨value, small⟩

/-- The first byte of a character tells its number of bytes. -/
theorem charWidth_firstByte (character : Char) :
    charWidth (firstByte character) = character.utf8Size := by
  have bound := val_lt character
  rw [← String.length_utf8EncodeChar]
  unfold firstByte String.utf8EncodeChar
  dsimp only
  split
  · rw [List.headD_cons, charWidth_ofNat (by omega), if_neg (by omega), if_neg (by omega),
      if_neg (by omega)]
    rfl
  split
  · rw [List.headD_cons, charWidth_ofNat (by omega), if_pos (by omega)]
    rfl
  split
  · rw [List.headD_cons, charWidth_ofNat (by omega), if_neg (by omega), if_pos (by omega)]
    rfl
  · rw [List.headD_cons, charWidth_ofNat (by omega), if_neg (by omega), if_neg (by omega),
      if_pos (by omega)]
    rfl

/-- The first byte of a character continues no other one. -/
theorem isContinuation_firstByte (character : Char) :
    PaddedText.isContinuation (firstByte character) = false := by
  have bound := val_lt character
  unfold firstByte String.utf8EncodeChar
  dsimp only
  split
  · rw [List.headD_cons, isContinuation_ofNat (by omega), decide_eq_false (by omega)]
  split
  · rw [List.headD_cons, isContinuation_ofNat (by omega), decide_eq_false (by omega)]
  split
  · rw [List.headD_cons, isContinuation_ofNat (by omega), decide_eq_false (by omega)]
  · rw [List.headD_cons, isContinuation_ofNat (by omega), decide_eq_false (by omega)]

/-- The other bytes of a character continue it. -/
theorem isContinuation_of_mem_tail {character : Char} {byte : UInt8}
    (member : byte ∈ (String.utf8EncodeChar character).tail) :
    PaddedText.isContinuation byte = true := by
  have bound := val_lt character
  revert member
  unfold String.utf8EncodeChar
  dsimp only
  split
  · simp
  split
  · simp only [List.tail_cons, List.mem_cons, List.not_mem_nil, or_false]
    rintro rfl
    rw [isContinuation_ofNat (by omega), decide_eq_true (by omega)]
  split
  · simp only [List.tail_cons, List.mem_cons, List.not_mem_nil, or_false]
    rintro (rfl | rfl) <;> rw [isContinuation_ofNat (by omega), decide_eq_true (by omega)]
  · simp only [List.tail_cons, List.mem_cons, List.not_mem_nil, or_false]
    rintro (rfl | rfl | rfl) <;> rw [isContinuation_ofNat (by omega), decide_eq_true (by omega)]

/-- The first byte of a character as a number: the code point of an ASCII character, and beyond
ASCII for any other one. -/
theorem toNat_firstByte (character : Char) :
    (firstByte character).toNat = character.val.toNat ∧ character.val.toNat < 128 ∨
      128 ≤ (firstByte character).toNat ∧ 128 ≤ character.val.toNat := by
  have bound := val_lt character
  unfold firstByte String.utf8EncodeChar
  dsimp only
  split
  · rw [List.headD_cons, UInt8.toNat_ofNat']
    omega
  split
  · rw [List.headD_cons, UInt8.toNat_ofNat']
    omega
  split
  · rw [List.headD_cons, UInt8.toNat_ofNat']
    omega
  · rw [List.headD_cons, UInt8.toNat_ofNat']
    omega

/-- Every byte of a character beyond ASCII is beyond ASCII. -/
theorem le_toNat_of_mem_utf8EncodeChar {character : Char} (large : 128 ≤ character.val.toNat)
    {byte : UInt8} (member : byte ∈ String.utf8EncodeChar character) : 128 ≤ byte.toNat := by
  have bound := val_lt character
  revert member
  unfold String.utf8EncodeChar
  dsimp only
  rw [if_neg (by omega)]
  split
  · simp only [List.mem_cons, List.not_mem_nil, or_false]
    rintro (rfl | rfl) <;> rw [UInt8.toNat_ofNat'] <;> omega
  split
  · simp only [List.mem_cons, List.not_mem_nil, or_false]
    rintro (rfl | rfl | rfl) <;> rw [UInt8.toNat_ofNat'] <;> omega
  · simp only [List.mem_cons, List.not_mem_nil, or_false]
    rintro (rfl | rfl | rfl | rfl) <;> rw [UInt8.toNat_ofNat'] <;> omega

/-- The byte of an ASCII character starts no other character. -/
theorem firstByte_beq (ascii : Char) (byte : UInt8) (byteEq : byte.toNat = ascii.val.toNat)
    (small : byte.toNat < 128) (character : Char) :
    (firstByte character == byte) = (character == ascii) := by
  rw [Bool.eq_iff_iff, beq_iff_eq, beq_iff_eq, ← UInt8.toNat_inj, Char.ext_iff,
    ← UInt32.toNat_inj, byteEq]
  rcases toNat_firstByte character with ⟨firstEq, _⟩ | ⟨firstLarge, large⟩
  · rw [firstEq]
  · omega

/-- An ASCII character has one byte. -/
theorem utf8Size_of_ascii {character : Char} (small : character.val.toNat < 128) :
    character.utf8Size = 1 := by
  rw [Char.utf8Size_eq_one_iff, UInt32.le_iff_toNat_le]
  exact Nat.le_of_lt_succ small

/-! ## The bytes of a padded text -/

/-- The padded text of characters. -/
def padded (characters : List Char) : PaddedText :=
  PaddedText.ofString (String.ofList characters)

theorem ofString_eq_padded (text : String) : PaddedText.ofString text = padded text.toList := by
  rw [padded, String.ofList_toList]

/-- The bytes of a padded text are those of its characters and the zeros behind them. -/
theorem toList_bytes_padded (characters : List Char) :
    (padded characters).bytes.data.toList =
      encode characters ++
        List.replicate (PaddedText.paddedSize (encode characters).length -
          (encode characters).length) 0 := by
  simp [padded, PaddedText.ofString, utf8Encode_eq_encode]

@[simp]
theorem length_padded (characters : List Char) :
    (padded characters).length = (encode characters).length := by
  simp [padded, PaddedText.ofString, utf8Encode_eq_encode]

theorem length_ofString (source : String) :
    (PaddedText.ofString source).length = source.utf8ByteSize := by
  rw [ofString_eq_padded, length_padded, length_encode_toList]

theorem getElem?_bytes (bytes : ByteArray) (position : Nat) :
    bytes[position]? = bytes.data.toList[position]? := by
  rw [Array.getElem?_toList]
  by_cases inside : position < bytes.size
  · rw [getElem?_pos bytes position inside, getElem?_pos bytes.data position inside]
    rfl
  · rw [getElem?_neg bytes position inside, getElem?_neg bytes.data position inside]

/-- The bytes from a cut on: those of the characters behind it, and at least one zero. -/
theorem exists_drop_bytes_padded (before rest : List Char) :
    ∃ zeros, (padded (before ++ rest)).bytes.data.toList.drop (encode before).length =
      encode rest ++ 0 :: zeros := by
  have larger := PaddedText.lt_paddedSize (encode (before ++ rest)).length
  obtain ⟨count, countEq⟩ : ∃ count, PaddedText.paddedSize (encode (before ++ rest)).length -
      (encode (before ++ rest)).length = count + 1 :=
    ⟨_, (Nat.succ_pred_eq_of_pos (by omega)).symm⟩
  refine ⟨List.replicate count 0, ?_⟩
  rw [toList_bytes_padded, countEq, List.replicate_succ, encode_append, List.append_assoc,
    List.drop_left]

/-- The byte that a cursor between two parts of a text stands on: the first one of the character
behind it, or the zero behind the text. -/
def leadByte : List Char → UInt8
  | [] => 0
  | character :: _ => firstByte character

theorem leadByte_beq (ascii : Char) (byte : UInt8) (byteEq : byte.toNat = ascii.val.toNat)
    (range : 0 < byte.toNat ∧ byte.toNat < 128) (text : List Char) :
    (leadByte text == byte) = (text.head? == some ascii) := by
  cases text with
  | nil =>
      have differ : (0 : UInt8) ≠ byte := by
        intro zeroEq
        rw [← zeroEq] at range
        exact absurd range.1 (by decide)
      simpa [leadByte] using differ
  | cons character text =>
      simpa [leadByte] using firstByte_beq ascii byte byteEq range.2 character

theorem getElem?_bytes_padded (before rest : List Char) :
    (padded (before ++ rest)).bytes[(encode before).length]? = some (leadByte rest) := by
  obtain ⟨zeros, dropEq⟩ := exists_drop_bytes_padded before rest
  rw [getElem?_bytes, ← Nat.add_zero (encode before).length, ← List.getElem?_drop, dropEq]
  cases rest with
  | nil => rfl
  | cons character rest =>
      rw [encode_cons, utf8EncodeChar_eq_cons]
      rfl

/-- The bytes of the character behind a cut. -/
theorem getElem?_bytes_padded_add {character : Char} {index : Nat} (before rest : List Char)
    (inside : index < (String.utf8EncodeChar character).length) :
    (padded (before ++ character :: rest)).bytes[(encode before).length + index]? =
      some (String.utf8EncodeChar character)[index] := by
  obtain ⟨zeros, dropEq⟩ := exists_drop_bytes_padded before (character :: rest)
  rw [getElem?_bytes, ← List.getElem?_drop, dropEq, encode_cons, List.append_assoc,
    List.getElem?_append_left inside, List.getElem?_eq_getElem inside]

/-- The bytes between two cuts are those of the characters between them. -/
theorem extract_bytes_padded (before middle rest : List Char) :
    (padded (before ++ (middle ++ rest))).bytes.extract (encode before).length
      (encode (before ++ middle)).length = (encode middle).toByteArray := by
  obtain ⟨zeros, dropEq⟩ := exists_drop_bytes_padded before (middle ++ rest)
  have lengthEq : (encode (before ++ middle)).length - (encode before).length =
      (encode middle).length := by
    simp
  apply ByteArray.ext
  apply Array.toList_inj.mp
  rw [ByteArray.data_extract, Array.toList_extract, List.extract_eq_take_drop, dropEq, lengthEq,
    encode_append, List.append_assoc, List.take_left, List.data_toByteArray]

theorem fromUTF8?_encode (characters : List Char) :
    String.fromUTF8? (encode characters).toByteArray = some (String.ofList characters) := by
  have valid : (encode characters).toByteArray.IsValidUTF8 := ⟨characters, rfl⟩
  rw [String.fromUTF8?, dif_pos valid]
  rfl

/-- A cut between two parts of a text lies between two characters. -/
theorem isBoundary_padded (before rest : List Char) :
    (padded (before ++ rest)).isBoundary (encode before).length = true := by
  rw [PaddedText.isBoundary, getElem?_bytes_padded, length_padded, encode_append,
    List.length_append]
  cases rest with
  | nil => simp
  | cons character rest =>
      have positive := character.utf8Size_pos
      simp [leadByte, isContinuation_firstByte]
      omega

/-- There are no other boundaries than such cuts. -/
theorem exists_cut_of_isBoundary {text : List Char} {position : Nat}
    (boundary : (padded text).isBoundary position = true) :
    ∃ before rest, text = before ++ rest ∧ position = (encode before).length := by
  suffices reached : ∀ before rest, text = before ++ rest → (encode before).length ≤ position →
      ∃ first second, text = first ++ second ∧ position = (encode first).length from
    reached [] text rfl (Nat.zero_le _)
  intro before rest
  induction rest generalizing before with
  | nil =>
      intro textEq behind
      refine ⟨before, [], textEq, ?_⟩
      rw [List.append_nil] at textEq
      simp only [PaddedText.isBoundary, length_padded, textEq, Bool.or_eq_true, Bool.and_eq_true,
        beq_iff_eq, decide_eq_true_eq] at boundary
      omega
  | cons character rest ih =>
      intro textEq behind
      by_cases atCut : position = (encode before).length
      · exact ⟨before, character :: rest, textEq, atCut⟩
      · refine ih (before ++ [character]) (by simp [textEq]) ?_
        by_contra inside
        obtain ⟨offset, rfl⟩ := Nat.exists_eq_add_of_le behind
        have offsetPos : offset ≠ 0 := by simpa using atCut
        obtain ⟨index, rfl⟩ := Nat.exists_eq_succ_of_ne_zero offsetPos
        have inChar : index + 1 < (String.utf8EncodeChar character).length := by
          simpa using inside
        have byteAt := getElem?_bytes_padded_add before rest inChar
        have continued : PaddedText.isContinuation (String.utf8EncodeChar character)[index + 1] :=
          isContinuation_of_mem_tail (by
            rw [← List.getElem_tail (by simpa using Nat.lt_sub_of_add_lt inChar)]
            exact List.getElem_mem _)
        have later : (encode before).length + (index + 1) ≠ (encode text).length := by
          rw [textEq, encode_append, encode_cons, List.length_append, List.length_append]
          omega
        rw [← textEq] at byteAt
        simp [PaddedText.isBoundary, byteAt, continued, later] at boundary

end Focal.Source
