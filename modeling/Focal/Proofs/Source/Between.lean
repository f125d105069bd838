import Focal.Source.Loop
import Focal.Proofs.Source.Encoding
import Focal.Proofs.Text.Terminators

/-!
# Cursors between characters

`Cursor.between` is the cursor that stands between two parts of a text, with the line that the
terminators in front of it make.  Every read there gives what the second part starts with, and no
move from there is refused: it leads to the cursor between a longer first part and a shorter second
one.  So a scan can be followed on lists of characters alone.
-/

namespace Focal.Source

open Focal.Text (terminators isTerminator isTerminator_eq_false_iff Whole terminators_append
  terminators_append_of_inside terminators_feed_cons terminators_return_cons)

/-! ## Computations that may fail -/

@[simp]
theorem ok_bind {ε α β : Type} (value : α) (next : α → Except ε β) :
    (Except.ok value >>= next) = next value :=
  rfl

@[simp]
theorem error_bind {ε α β : Type} (error : ε) (next : α → Except ε β) :
    (Except.error error >>= next) = Except.error error :=
  rfl

theorem pure_eq_ok {ε α : Type} (value : α) : (pure value : Except ε α) = .ok value :=
  rfl

namespace Cursor

/-- The cursor between two parts of a text whose first character is on line `first` and which has no
line above `last`. -/
def between (first last : Nat) (before rest : List Char) : Cursor where
  text := padded (before ++ rest)
  position := (encode before).length
  line := first + terminators before
  lastLine := last

variable {first last : Nat}

theorem atLine_eq_between (text : String) (line lastLine : Nat) :
    atLine text line lastLine = between line lastLine [] text.toList := by
  simp [atLine, between, ofString_eq_padded, terminators]

@[simp]
theorem line_between (before rest : List Char) :
    (between first last before rest).line = first + terminators before :=
  rfl

@[simp]
theorem position_between (before rest : List Char) :
    (between first last before rest).position = (encode before).length :=
  rfl

@[simp]
theorem text_between (before rest : List Char) :
    (between first last before rest).text = padded (before ++ rest) :=
  rfl

@[simp]
theorem remaining_between (before rest : List Char) :
    (between first last before rest).remaining = (encode rest).length := by
  simp [remaining, between]

/-! ## Reads -/

theorem current_eq_ok {cursor : Cursor} {before rest : List Char}
    (textEq : cursor.text = padded (before ++ rest))
    (positionEq : cursor.position = (encode before).length) :
    cursor.current = .ok (leadByte rest) := by
  simp only [current, byteAt, textEq, positionEq, getElem?_bytes_padded]

@[simp]
theorem current_between (before rest : List Char) :
    (between first last before rest).current = .ok (leadByte rest) :=
  current_eq_ok rfl rfl

theorem length_encode_pos {rest : List Char} (nonempty : rest ≠ []) :
    0 < (encode rest).length := by
  cases rest with
  | nil => exact absurd rfl nonempty
  | cons character rest =>
      have positive := character.utf8Size_pos
      rw [encode_cons, List.length_append, String.length_utf8EncodeChar]
      omega

/-- A cursor is at the end exactly when nothing is behind it, whatever byte it stands on. -/
@[simp]
theorem isEnd_between (before rest : List Char) :
    (between first last before rest).isEnd = .ok rest.isEmpty := by
  rw [isEnd, current_between, ok_bind, pure_eq_ok]
  cases rest with
  | nil => simp [between, leadByte]
  | cons character rest =>
      have positive := length_encode_pos (List.cons_ne_nil character rest)
      have inside : ¬ (encode (before ++ character :: rest)).length ≤ (encode before).length := by
        rw [encode_append, List.length_append]
        omega
      simp only [between, length_padded, inside, decide_false, Bool.and_false, List.isEmpty_cons]

/-- The text between two cuts, read by any cursor in it. -/
theorem slice_eq_ok {cursor : Cursor} {before middle rest : List Char}
    (textEq : cursor.text = padded (before ++ (middle ++ rest))) :
    cursor.slice (encode before).length (encode (before ++ middle)).length =
      .ok (String.ofList middle) := by
  have ordered : ¬ (encode (before ++ middle)).length < (encode before).length := by
    simp
  have inside : ¬ (encode (before ++ (middle ++ rest))).length <
      (encode (before ++ middle)).length := by
    simp only [encode_append, List.length_append]
    omega
  have startBoundary := isBoundary_padded before (middle ++ rest)
  have stopBoundary := isBoundary_padded (before ++ middle) rest
  rw [List.append_assoc] at stopBoundary
  simp only [slice, textEq, length_padded, ordered, inside, startBoundary, stopBoundary,
    if_false, Bool.not_true, Bool.or_self, Bool.false_eq_true, extract_bytes_padded,
    fromUTF8?_encode]

theorem sliceFrom_between (before middle rest : List Char) :
    (between first last (before ++ middle) rest).sliceFrom (encode before).length =
      .ok (String.ofList middle) :=
  slice_eq_ok (by rw [between, List.append_assoc])

/-- The character at a cursor is the first one behind it. -/
@[simp]
theorem char_between (before rest : List Char) :
    (between first last before rest).char = .ok (rest.headD '\x00') := by
  rw [char, isEnd_between, ok_bind]
  cases rest with
  | nil => rfl
  | cons character rest =>
      have stopEq : min ((encode before).length + charWidth (firstByte character))
          (encode (before ++ character :: rest)).length =
            (encode (before ++ [character])).length := by
        simp [charWidth_firstByte]
      have sliced : (between first last before (character :: rest)).slice (encode before).length
          (encode (before ++ [character])).length = .ok (String.ofList [character]) :=
        slice_eq_ok rfl
      simp only [List.isEmpty_cons, Bool.false_eq_true, if_false, current_between, leadByte,
        ok_bind,
        position_between, text_between, length_padded, stopEq, sliced, String.toList_ofList]
      rfl

/-! ## Moves -/

variable (first last)

/-- A move to another cut of the same text. -/
private theorem between_append (before middle rest : List Char)
    (inside : ∀ character ∈ middle, isTerminator character = false) :
    { between first last before (middle ++ rest) with
        position := (encode before).length + (encode middle).length } =
      between first last (before ++ middle) rest := by
  simp [between, terminators_append_of_inside before inside]

/-- Stepping over characters that end no line. -/
theorem skipBytes_between (before middle rest : List Char)
    (inside : ∀ character ∈ middle, isTerminator character = false) :
    (between first last before (middle ++ rest)).skipBytes (encode middle).length =
      .ok (between first last (before ++ middle) rest) := by
  have room : (encode before).length + (encode middle).length ≤
      (encode (before ++ (middle ++ rest))).length := by
    simp only [encode_append, List.length_append]
    omega
  rw [← between_append first last before middle rest inside]
  simp only [skipBytes, between, length_padded, room, if_true]

theorem skipByte_between {character : Char} (before rest : List Char)
    (small : character.val.toNat < 128) (inside : isTerminator character = false) :
    (between first last before (character :: rest)).skipByte =
      .ok (between first last (before ++ [character]) rest) := by
  have moved := skipBytes_between first last before [character] rest
    (by simpa using inside)
  simpa [skipByte, utf8Size_of_ascii small] using moved

theorem skipChar_between {character : Char} (before rest : List Char)
    (inside : isTerminator character = false) :
    (between first last before (character :: rest)).skipChar =
      .ok (between first last (before ++ [character]) rest) := by
  have moved := skipBytes_between first last before [character] rest
    (by simpa using inside)
  have boundary : (between first last before (character :: rest)).text.isBoundary
      (between first last before (character :: rest)).position = true :=
    isBoundary_padded before (character :: rest)
  rw [skipChar, boundary, current_between]
  simpa [leadByte, charWidth_firstByte] using moved

/-! ## Line terminators -/

/-- A text as the line terminator it starts with, which may be missing, and the rest. -/
def splitTerminator : List Char → List Char × List Char
  | '\r' :: '\n' :: rest => (['\r', '\n'], rest)
  | character :: rest =>
      if isTerminator character then ([character], rest) else ([], character :: rest)
  | [] => ([], [])

theorem splitTerminator_append (text : List Char) :
    (splitTerminator text).1 ++ (splitTerminator text).2 = text := by
  fun_cases splitTerminator text with simp_all

/-- A text starts with no terminator, with a single character that is one, or with a pair. -/
theorem splitTerminator_cons (character : Char) (text : List Char) :
    splitTerminator (character :: text) = ([], character :: text) ∧
        isTerminator character = false ∨
      splitTerminator (character :: text) = ([character], text) ∨
      ∃ rest, character = '\r' ∧ text = '\n' :: rest ∧
        splitTerminator (character :: text) = (['\r', '\n'], rest) := by
  rw [splitTerminator.eq_def]
  split
  · rename_i rest textEq
    obtain ⟨rfl, rfl⟩ := List.cons.inj textEq
    exact Or.inr (Or.inr ⟨rest, rfl, rfl, rfl⟩)
  · rename_i other rest _ textEq
    obtain ⟨rfl, rfl⟩ := List.cons.inj textEq
    by_cases ends : isTerminator character = true
    · rw [if_pos ends]
      exact Or.inr (Or.inl rfl)
    · rw [if_neg ends]
      exact Or.inl ⟨rfl, by simpa using ends⟩
  · rename_i textEq
    exact absurd textEq (List.cons_ne_nil character text)

theorem whole_splitTerminator {before text : List Char} (whole : Whole before text) :
    Whole (before ++ (splitTerminator text).1) (splitTerminator text).2 := by
  fun_cases splitTerminator text with
  | case1 rest => simp [Whole]
  | case2 character rest unpaired ends =>
      intro lastEq headEq
      have isReturn : character = '\r' := by simpa using lastEq
      cases rest with
      | nil => simp at headEq
      | cons next rest => exact unpaired rest isReturn (by simpa using headEq)
  | case3 => simpa using whole
  | case4 => exact Whole.nil_right _

/-- A cursor that has stepped over part of a text without counting the line terminator in it. -/
private def uncounted (first last : Nat) (before read rest : List Char) : Cursor where
  text := padded (before ++ (read ++ rest))
  position := (encode (before ++ read)).length
  line := first + terminators before
  lastLine := last

private theorem between_eq_uncounted (before rest : List Char) :
    between first last before rest = uncounted first last before [] rest := by
  simp [between, uncounted]

private theorem current_uncounted (before read rest : List Char) :
    (uncounted first last before read rest).current = .ok (leadByte rest) :=
  current_eq_ok (by simp [uncounted]) rfl

private theorem skipByte_uncounted {character : Char} (before read rest : List Char)
    (small : character.val.toNat < 128) :
    (uncounted first last before read (character :: rest)).skipByte =
      .ok (uncounted first last before (read ++ [character]) rest) := by
  have oneByte := utf8Size_of_ascii small
  have room : (encode (before ++ read)).length + 1 ≤
      (encode (before ++ (read ++ character :: rest))).length := by
    simp only [encode_append, encode_cons, List.length_append, String.length_utf8EncodeChar]
    omega
  have movedEq : (encode (before ++ (read ++ [character]))).length =
      (encode (before ++ read)).length + 1 := by
    simp [oneByte, Nat.add_assoc]
  simp only [skipByte, skipBytes, uncounted, length_padded, room, if_true, movedEq,
    List.append_assoc, List.singleton_append]

private theorem nextLine_uncounted {before terminator rest : List Char}
    (room : first + terminators (before ++ (terminator ++ rest)) ≤ last)
    (whole : Whole before terminator) (wholeBehind : Whole (before ++ terminator) rest)
    (counted : terminators terminator = 1) :
    (uncounted first last before terminator rest).nextLine =
      .ok (between first last (before ++ terminator) rest) := by
  have countEq := terminators_append whole
  rw [← List.append_assoc, terminators_append wholeBehind] at room
  have below : first + terminators before < last := by omega
  simp only [nextLine, uncounted, between, below, if_true, countEq, counted, List.append_assoc]
  rfl

/-- Stepping over a line terminator: the cursor moves behind the one that the text starts with, if
there is one, and says whether there is. -/
theorem skipLineEnd_between {before text : List Char} (whole : Whole before text)
    (room : first + terminators (before ++ text) ≤ last) :
    (between first last before text).skipLineEnd =
      .ok (!(splitTerminator text).1.isEmpty,
        between first last (before ++ (splitTerminator text).1) (splitTerminator text).2) := by
  have feedAt := leadByte_beq '\n' byteLineFeed rfl (by decide)
  have returnAt := leadByte_beq '\r' byteReturn rfl (by decide)
  have overFeed := @skipByte_uncounted first last '\n' before
  have overReturn := @skipByte_uncounted first last '\r' before
  have wholeBehind := whole_splitTerminator whole
  rw [skipLineEnd, current_between, ok_bind, feedAt, returnAt]
  rw [splitTerminator.eq_def] at *
  split at wholeBehind
  · have counted := nextLine_uncounted first last room (Whole.of_head_ne _ _ (by decide))
      wholeBehind rfl
    simp only [between_eq_uncounted first last before, overReturn _ _ (by decide), ok_bind, feedAt,
      overFeed _ _ (by decide), current_uncounted]
    simp [counted, pure_eq_ok]
  · rename_i character rest unpaired
    by_cases ends : isTerminator character = true
    · rw [if_pos ends] at wholeBehind ⊢
      have isFeedOrReturn : character = '\n' ∨ character = '\r' := by
        simpa [isTerminator] using ends
      have counted := fun single : terminators [character] = 1 =>
        nextLine_uncounted first last room (show Whole before [character] from whole)
          wholeBehind single
      rcases isFeedOrReturn with rfl | rfl
      · simp only [between_eq_uncounted first last before, overFeed _ _ (by decide), ok_bind]
        simp [counted rfl, pure_eq_ok]
      · have notFeed : rest.head? ≠ some '\n' := by
          intro headEq
          obtain ⟨rest, rfl⟩ := List.head?_eq_some_iff.mp headEq
          exact unpaired rest rfl rfl
        simp only [between_eq_uncounted first last before, overReturn _ _ (by decide), ok_bind,
          feedAt, current_uncounted]
        simp [counted rfl, notFeed, pure_eq_ok]
    · rw [if_neg ends]
      have differ := isTerminator_eq_false_iff.mp (by simpa using ends)
      simp [differ, pure_eq_ok]
  · simp [pure_eq_ok]

end Cursor

end Focal.Source
