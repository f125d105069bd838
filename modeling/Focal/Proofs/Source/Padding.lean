import Focal.Proofs.Source.Between

/-!
# The zeros behind a text

Behind a text stand as many zeros as its last block has room for, and a whole block of them when
the text ends with a block (`paddedSize_eq`).  At least one zero stands there, so a cursor can look
at the byte it is on wherever it is (`current_eq`), and a zero inside the text is not taken for the
end (`isEnd_eq`).  The byte after that is another matter: at the end of a text
that leaves room for one zero only, there is none.  `nextByte_exact` says that no other case is
like this.
-/

namespace Focal.Source

namespace PaddedText

/-- The zeros behind a text fill its last block. -/
theorem paddedSize_eq (length : Nat) :
    paddedSize length = length + (blockSize - length % blockSize) := by
  simp only [paddedSize, blockSize]
  omega

/-- Only one zero stands behind a text when that is all its last block has room for. -/
theorem paddedSize_eq_succ_iff {length : Nat} :
    paddedSize length = length + 1 ↔ length % blockSize = blockSize - 1 := by
  rw [paddedSize_eq]
  simp only [blockSize]
  omega

/-- The bytes of a padded source: those of its characters, and zeros up to the padded size. -/
theorem getElem?_bytes_ofString (source : String) (position : Nat) :
    (ofString source).bytes[position]? =
      if position < paddedSize source.utf8ByteSize then
        some ((encode source.toList)[position]?.getD 0)
      else none := by
  have larger := lt_paddedSize source.utf8ByteSize
  rw [getElem?_bytes, ofString_eq_padded, toList_bytes_padded, length_encode_toList,
    List.getElem?_append, length_encode_toList, List.getElem?_replicate]
  by_cases inText : position < source.utf8ByteSize
  · have inEncoded : position < (encode source.toList).length := by
      rwa [length_encode_toList]
    rw [if_pos inText, if_pos (Nat.lt_trans inText larger), List.getElem?_eq_getElem inEncoded,
      Option.getD_some]
  · have behindEncoded : (encode source.toList).length ≤ position := by
      rw [length_encode_toList]
      exact Nat.le_of_not_lt inText
    rw [if_neg inText, List.getElem?_eq_none behindEncoded, Option.getD_none]
    -- The zeros are counted from the end of the text, the bytes from its start.
    exact if_congr (by omega) rfl rfl

end PaddedText

section Bytes

variable {source : String} {position : Nat} {byte : UInt8}

theorem lt_utf8ByteSize_of_getElem? (byteEq : (encode source.toList)[position]? = some byte) :
    position < source.utf8ByteSize := by
  obtain ⟨inside, -⟩ := List.getElem?_eq_some_iff.mp byteEq
  rwa [length_encode_toList] at inside

theorem exists_getElem?_of_lt (inside : position < source.utf8ByteSize) :
    ∃ byte, (encode source.toList)[position]? = some byte :=
  ⟨_, List.getElem?_eq_getElem (by rwa [length_encode_toList])⟩

/-- The bytes of a source stand in its padded text at the same positions. -/
theorem getElem?_bytes_of_getElem? (byteEq : (encode source.toList)[position]? = some byte) :
    (PaddedText.ofString source).bytes[position]? = some byte := by
  have inside := lt_utf8ByteSize_of_getElem? byteEq
  rw [PaddedText.getElem?_bytes_ofString, byteEq, Option.getD_some,
    if_pos (Nat.lt_trans inside (PaddedText.lt_paddedSize _))]

end Bytes

/-- Thirty-two bits hold the length of a source of fewer than 2³² bytes. -/
theorem saturated_ofString {source : String} (small : source.utf8ByteSize < UInt32.size) :
    (PaddedText.ofString source).saturated = PaddedText.ofString source := by
  rwa [PaddedText.saturated_eq_iff, length_ofString]

namespace Cursor

variable {source : String} {cursor : Cursor}

/-- The byte that a cursor is on, up to the end of a source: the zero behind the source there. -/
theorem current_eq (textEq : cursor.text = PaddedText.ofString source)
    (inside : cursor.position ≤ source.utf8ByteSize) :
    cursor.current = .ok ((encode source.toList)[cursor.position]?.getD 0) := by
  have larger := PaddedText.lt_paddedSize source.utf8ByteSize
  rw [current, byteAt, textEq, PaddedText.getElem?_bytes_ofString,
    if_pos (Nat.lt_of_le_of_lt inside larger)]

/-- A cursor is at the end behind the last byte of a source and nowhere else, whatever byte it is
on. -/
theorem isEnd_eq (textEq : cursor.text = PaddedText.ofString source)
    (inside : cursor.position ≤ source.utf8ByteSize) :
    cursor.isEnd = .ok (decide (cursor.position = source.utf8ByteSize)) := by
  rw [isEnd, current_eq textEq inside, textEq, length_ofString, ok_bind, pure_eq_ok]
  by_cases atEnd : cursor.position = source.utf8ByteSize
  · have noByte : (encode source.toList)[source.utf8ByteSize]? = none := by
      rw [List.getElem?_eq_none_iff, length_encode_toList]
    simp [atEnd, noByte]
  · have before : ¬ source.utf8ByteSize ≤ cursor.position := by
      omega
    simp [atEnd, before]

/-- The byte after the one that a cursor is on, as long as that is a byte of the padded text. -/
theorem nextByte_eq (textEq : cursor.text = PaddedText.ofString source) :
    cursor.nextByte =
      if cursor.position + 1 < PaddedText.paddedSize source.utf8ByteSize then
        .ok ((encode source.toList)[cursor.position + 1]?.getD 0)
      else .error .outsideBytes := by
  rw [nextByte, byteAt, textEq, PaddedText.getElem?_bytes_ofString]
  split_ifs <;> rfl

/-- Up to the end of a source, the byte after the one that a cursor is on is the next byte of the
source or a zero behind it.  There is no such byte in one case: at the end of a source that leaves
room for a single zero in its last block. -/
theorem nextByte_exact (textEq : cursor.text = PaddedText.ofString source)
    (inside : cursor.position ≤ cursor.text.length) :
    (cursor.nextByte = .ok ((encode source.toList)[cursor.position + 1]?.getD 0) ↔
      ¬ (cursor.position = source.utf8ByteSize ∧
        source.utf8ByteSize % blockSize = blockSize - 1)) ∧
    (cursor.nextByte = .error .outsideBytes ↔
      cursor.position = source.utf8ByteSize ∧
        source.utf8ByteSize % blockSize = blockSize - 1) := by
  have larger := PaddedText.lt_paddedSize source.utf8ByteSize
  have sizeEq : cursor.text.length = source.utf8ByteSize := by
    rw [textEq, ofString_eq_padded, length_padded, length_encode_toList]
  rw [sizeEq] at inside
  rw [nextByte_eq textEq, ← PaddedText.paddedSize_eq_succ_iff]
  -- A cursor in front of the end has the zero at the end as its next byte, if no other.
  by_cases within : cursor.position + 1 < PaddedText.paddedSize source.utf8ByteSize
  · have notLast : ¬ (cursor.position = source.utf8ByteSize ∧
        PaddedText.paddedSize source.utf8ByteSize = source.utf8ByteSize + 1) := by
      omega
    simp [within, notLast]
  · have isLast : cursor.position = source.utf8ByteSize ∧
        PaddedText.paddedSize source.utf8ByteSize = source.utf8ByteSize + 1 := by
      omega
    simp [isLast]

/-- Behind 62 bytes stand two zeros, so that the byte after the end is the second one. -/
theorem nextByte_exact_twoZeros :
    let source := String.ofList (List.replicate 62 'a')
    let cursor : Cursor := ⟨PaddedText.ofString source, 62, 1, 1⟩
    cursor.text = PaddedText.ofString source ∧ cursor.position ≤ cursor.text.length ∧
      cursor.nextByte = .ok 0 := by
  intro source cursor
  have sizeEq : source.utf8ByteSize = 62 := by decide +kernel
  have inside : cursor.position ≤ cursor.text.length := Nat.le_of_eq sizeEq.symm
  have room : ¬ (cursor.position = source.utf8ByteSize ∧
      source.utf8ByteSize % blockSize = blockSize - 1) := by
    rw [sizeEq]
    decide
  have behind : (encode source.toList)[cursor.position + 1]? = none :=
    List.getElem?_eq_none (by rw [length_encode_toList, sizeEq]; decide)
  have found := (nextByte_exact rfl inside).1.mpr room
  rw [behind] at found
  exact ⟨rfl, inside, found⟩

/-- Behind 63 bytes stands one zero, and no byte after it. -/
theorem nextByte_outside_block :
    let source := String.ofList (List.replicate 63 'a')
    let cursor : Cursor := ⟨PaddedText.ofString source, 63, 1, 1⟩
    cursor.text = PaddedText.ofString source ∧ cursor.position ≤ cursor.text.length ∧
      cursor.nextByte = .error .outsideBytes := by
  intro source cursor
  have sizeEq : source.utf8ByteSize = 63 := by decide +kernel
  refine ⟨rfl, Nat.le_of_eq sizeEq.symm, ?_⟩
  rw [nextByte_eq rfl, if_neg]
  rw [sizeEq]
  decide

end Cursor

end Focal.Source
