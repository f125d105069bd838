import Focal.Proofs.Source.Scans
import Mathlib.Data.Prod.Basic

/-!
# Cursors at any place and on any line

A scan counts the lines that it passes and does not look at the number of the line that it starts
on: where the lines have larger numbers it comes to the same result, and the cursor behind it is on
a line with a larger number.  This holds of a loop if it holds of its turns (`loop_later`).  So what
a scan from `Cursor.between` comes to is known for every cursor at a boundary (`StandsIn`): moved to
later lines, it is such a cursor (`Stands.later_eq`).
-/

namespace Focal.Source

open Focal.Text (terminators isTerminator Whole terminators_append terminators_cons
  terminators_append_of_inside)

namespace Cursor

/-! ## Later lines -/

/-- The cursor at the same place of a text whose lines have numbers larger by `count`. -/
def later (count : Nat) (cursor : Cursor) : Cursor :=
  { cursor with line := cursor.line + count, lastLine := cursor.lastLine + count }

theorem later_injective (count : Nat) : Function.Injective (later count) := by
  intro first second laterEq
  cases first
  cases second
  simpa [later] using laterEq

variable {α : Type} (count : Nat) (cursor : Cursor)

@[simp]
theorem text_later : (cursor.later count).text = cursor.text :=
  rfl

@[simp]
theorem position_later : (cursor.later count).position = cursor.position :=
  rfl

@[simp]
theorem line_later : (cursor.later count).line = cursor.line + count :=
  rfl

@[simp]
theorem remaining_later : (cursor.later count).remaining = cursor.remaining :=
  rfl

@[simp]
theorem current_later : (cursor.later count).current = cursor.current :=
  rfl

@[simp]
theorem isEnd_later : (cursor.later count).isEnd = cursor.isEnd :=
  rfl

@[simp]
theorem char_later : (cursor.later count).char = cursor.char :=
  rfl

@[simp]
theorem sliceFrom_later (start : Nat) :
    (cursor.later count).sliceFrom start = cursor.sliceFrom start :=
  rfl

@[simp]
theorem skipBytes_later (bytes : Nat) :
    (cursor.later count).skipBytes bytes = later count <$> cursor.skipBytes bytes := by
  by_cases inside : cursor.position + bytes ≤ cursor.text.length
  · simp only [skipBytes, position_later, text_later, inside, if_true]
    rfl
  · simp only [skipBytes, position_later, text_later, inside, if_false]
    rfl

@[simp]
theorem skipByte_later : (cursor.later count).skipByte = later count <$> cursor.skipByte :=
  skipBytes_later count cursor 1

@[simp]
theorem skipChar_later : (cursor.later count).skipChar = later count <$> cursor.skipChar := by
  cases boundary : cursor.text.isBoundary cursor.position <;> simp [skipChar, boundary]

@[simp]
theorem nextLine_later : (cursor.later count).nextLine = later count <$> cursor.nextLine := by
  by_cases below : cursor.line < cursor.lastLine
  · have lineEq : cursor.line + count + 1 = cursor.line + 1 + count := Nat.add_right_comm _ _ _
    simp only [nextLine, later, Nat.add_lt_add_iff_right, below, if_true, lineEq]
    rfl
  · simp only [nextLine, later, Nat.add_lt_add_iff_right, below, if_false]
    rfl

/-- A result and the cursor behind it, on a line with a larger number. -/
def laterBehind (count : Nat) : α × Cursor → α × Cursor :=
  Prod.map id (later count)

theorem laterBehind_injective : Function.Injective (@laterBehind α count) :=
  Function.injective_id.prodMap (later_injective count)

/-- What a scan comes to is known if it is for later lines. -/
theorem eq_ok_of_map {ε β : Type} {change : α → β} (injective : Function.Injective change)
    {scanned : Except ε α} {result : α} (mapped : change <$> scanned = .ok (change result)) :
    scanned = .ok result := by
  cases scanned with
  | error failure => cases mapped
  | ok found => rw [injective (Except.ok.inj mapped)]

@[simp]
theorem skipLineEnd_later :
    (cursor.later count).skipLineEnd = laterBehind count <$> cursor.skipLineEnd := by
  simp [skipLineEnd, laterBehind, apply_ite (Prod.map id (later count) <$> ·)]

@[simp]
theorem moveTo_later (found : Option Nat) :
    (cursor.later count).moveTo found = laterBehind count <$> cursor.moveTo found := by
  cases found with
  | none => rfl
  | some position => simp [moveTo, laterBehind]; rfl

@[simp]
theorem seekStringMark_later :
    (cursor.later count).seekStringMark = laterBehind count <$> cursor.seekStringMark := by
  by_cases pastEnd : cursor.text.length < cursor.position <;> simp [seekStringMark, pastEnd]

/-! ## Loops -/

/-- A turn that leads to a cursor on a line with a larger number. -/
def laterTurn {σ : Type} (count : Nat) : Turn σ α → Turn σ α
  | .next state after => .next state (after.later count)
  | .stop result after => .stop result (after.later count)

/-- A loop of turns that do not look at the number of the line does not look at it either. -/
theorem loop_later {ε σ : Type} {stalled : ε} {turn : σ → Cursor → Except ε (Turn σ α)}
    (turnLater : ∀ state cursor, turn state (later count cursor) =
      laterTurn count <$> turn state cursor) (state : σ) :
    loop stalled turn state (cursor.later count) =
      laterBehind count <$> loop stalled turn state cursor := by
  fun_induction loop stalled turn state cursor with
  | case1 state cursor failure turned =>
      rw [loop_of_error (by rw [turnLater, turned]; rfl)]
      rfl
  | case2 state cursor result after turned =>
      rw [loop_of_stop (by rw [turnLater, turned]; rfl)]
      rfl
  | case3 state cursor next after turned nearer ih =>
      rw [loop_of_next (by rw [turnLater, turned]; rfl) (by simpa using nearer), ih]
  | case4 state cursor next after turned further =>
      have turnedLater : turn state (cursor.later count) = .ok (.next next (after.later count)) := by
        rw [turnLater, turned]
        rfl
      rw [loop, turnedLater]
      simp only [remaining_later, further, if_false]
      rfl

theorem runTurn_later (test : UInt8 → Bool) (state : Unit) :
    runTurn test state (cursor.later count) = laterTurn count <$> runTurn test state cursor := by
  simp [runTurn, apply_ite (laterTurn count <$> ·), laterTurn]

@[simp]
theorem skipWhile_later (test : UInt8 → Bool) :
    (cursor.later count).skipWhile test = later count <$> cursor.skipWhile test := by
  have turnLater := fun state cursor => runTurn_later count cursor test state
  simp [skipWhile, loop_later count cursor turnLater, laterBehind]

section Quoted

variable {close : Cursor → Except Fault α} (unclosed : α)

theorem quotedTurn_later (closeLater : ∀ cursor, close (later count cursor) = close cursor)
    (state : Unit) :
    quotedTurn close unclosed state (cursor.later count) =
      laterTurn count <$> quotedTurn close unclosed state cursor := by
  simp only [quotedTurn, seekStringMark_later, map_bind, bind_map_left]
  congr 1
  funext sought
  rcases sought with ⟨mark, found⟩
  cases mark with
  | none => simp [markTurn, laterBehind, laterTurn]
  | some byte =>
    simp [markTurn, laterBehind, closeLater, laterTurn, apply_ite (laterTurn count <$> ·)]

theorem loop_quotedTurn_later (closeLater : ∀ cursor, close (later count cursor) = close cursor) :
    loop .stalled (quotedTurn close unclosed) () (cursor.later count) =
      laterBehind count <$> loop .stalled (quotedTurn close unclosed) () cursor :=
  loop_later count cursor
    (fun state cursor => quotedTurn_later count cursor unclosed closeLater state) ()

end Quoted

@[simp]
theorem skipQuoted_later :
    (cursor.later count).skipQuoted = laterBehind count <$> cursor.skipQuoted := by
  simp [skipQuoted, skipQuotedTurn_eq, loop_quotedTurn_later]

end Cursor

/-! ## Cursors on any line -/

/-- A cursor between two characters of a source, on whatever line; the lines that the rest of the
source may have can be numbered. -/
structure Cursor.StandsIn (source : String) (cursor : Cursor) : Prop where
  text_eq : cursor.text = PaddedText.ofString source
  boundary : cursor.text.isBoundary cursor.position = true
  room : cursor.line + cursor.remaining ≤ cursor.lastLine

/-- A cursor between two parts of a text, on whatever line. -/
structure Cursor.Stands (cursor : Cursor) (before rest : List Char) : Prop where
  text_eq : cursor.text = padded (before ++ rest)
  position_eq : cursor.position = (encode before).length
  room : cursor.line + terminators rest ≤ cursor.lastLine

/-- The cursor behind some of the text that it stands in front of. -/
def Cursor.behind (cursor : Cursor) (read : List Char) : Cursor :=
  { cursor with
    position := cursor.position + (encode read).length
    line := cursor.line + terminators read }

namespace Cursor

variable {cursor : Cursor} {before read rest : List Char}

theorem StandsIn.exists_stands {source : String} (stands : cursor.StandsIn source) :
    ∃ before rest, source.toList = before ++ rest ∧ cursor.Stands before rest := by
  obtain ⟨textEq, boundary, room⟩ := stands
  rw [textEq, ofString_eq_padded] at boundary
  obtain ⟨before, rest, sourceEq, positionEq⟩ := exists_cut_of_isBoundary boundary
  have remainingEq : cursor.remaining = (encode rest).length := by
    simp [remaining, textEq, ofString_eq_padded, sourceEq, positionEq]
  have counted := (Text.terminators_le_length rest).trans (length_le_length_encode rest)
  refine ⟨before, rest, sourceEq, ?_, positionEq, ?_⟩
  · rw [textEq, ofString_eq_padded, sourceEq]
  · omega

/-- The cursor at a cut between two parts of a source. -/
theorem standsIn_of_cut {source : String} {line lastLine : Nat}
    (sourceEq : source.toList = before ++ rest) (room : line + (encode rest).length ≤ lastLine) :
    Cursor.StandsIn source ⟨PaddedText.ofString source, (encode before).length, line, lastLine⟩ := by
  have textEq : PaddedText.ofString source = padded (before ++ rest) := by
    rw [ofString_eq_padded, sourceEq]
  constructor
  case text_eq => rfl
  case boundary => simp [textEq, isBoundary_padded]
  case room => simpa [remaining, textEq] using room

/-- There is only one cut at a position. -/
theorem cut_unique {first second behind : List Char} (textEq : first ++ rest = second ++ behind)
    (sizeEq : (encode first).length = (encode second).length) : first = second ∧ rest = behind := by
  have noneBetween : ∀ {between : List Char}, (encode between).length = 0 → between = [] := by
    intro between empty
    by_contra nonempty
    exact absurd empty (length_encode_pos nonempty).ne'
  obtain ⟨between, rfl, restEq⟩ | ⟨between, rfl, behindEq⟩ := List.append_eq_append_iff.mp textEq
  · obtain rfl := noneBetween (by simpa using sizeEq)
    exact ⟨(List.append_nil first).symm, restEq⟩
  · obtain rfl := noneBetween (by simpa using sizeEq)
    exact ⟨List.append_nil second, behindEq.symm⟩

theorem later_eq_between (textEq : cursor.text = padded (before ++ rest))
    (positionEq : cursor.position = (encode before).length) :
    cursor.later (terminators before) =
      between cursor.line (cursor.lastLine + terminators before) before rest := by
  rcases cursor with ⟨text, position, line, lastLine⟩
  obtain rfl := textEq
  obtain rfl := positionEq
  rfl

theorem Stands.later_eq (stands : cursor.Stands before rest) :
    cursor.later (terminators before) =
      between cursor.line (cursor.lastLine + terminators before) before rest :=
  later_eq_between stands.text_eq stands.position_eq

theorem Stands.later_behind (stands : cursor.Stands before (read ++ rest))
    (whole : Whole before read) :
    (cursor.behind read).later (terminators before) =
      between cursor.line (cursor.lastLine + terminators before) (before ++ read) rest := by
  rcases cursor with ⟨text, position, line, lastLine⟩
  obtain ⟨rfl, rfl, -⟩ := stands
  have lineEq : line + terminators read + terminators before =
      line + (terminators before + terminators read) := by
    omega
  simp [behind, later, between, terminators_append whole, lineEq]

theorem Stands.later_room (stands : cursor.Stands before rest) (whole : Whole before rest) :
    cursor.line + terminators (before ++ rest) ≤ cursor.lastLine + terminators before := by
  have room := stands.room
  rw [terminators_append whole]
  omega

/-- The cursor behind a text between two marks, which are single bytes and end no line. -/
theorem behind_enclosed {opening closing : Char}
    (small : opening.val.toNat < 128 ∧ closing.val.toNat < 128)
    (inside : isTerminator opening = false ∧ isTerminator closing = false)
    (cursor : Cursor) (inner : List Char) :
    cursor.behind (opening :: inner ++ [closing]) =
      { cursor with
        position := cursor.position + 1 + (encode inner).length + 1
        line := cursor.line + terminators inner } := by
  have sizeEq :
      (encode (opening :: inner ++ [closing])).length = 1 + ((encode inner).length + 1) := by
    simp [utf8Size_of_ascii small.1, utf8Size_of_ascii small.2]
  have lineEq : terminators (opening :: inner ++ [closing]) = terminators inner := by
    rw [List.cons_append, terminators_cons _ inside.1,
      terminators_append_of_inside inner (List.forall_mem_singleton.mpr inside.2)]
  simp only [behind, lineEq, sizeEq, Nat.add_assoc]

theorem Stands.current_eq (stands : cursor.Stands before rest) :
    cursor.current = .ok (leadByte rest) :=
  current_eq_ok stands.text_eq stands.position_eq

/-- The byte of an ASCII character at a cursor is that character. -/
theorem Stands.exists_cons {ascii : Char} {byte : UInt8} (stands : cursor.Stands before rest)
    (leadEq : ∀ text, (leadByte text == byte) = (text.head? == some ascii))
    (atByte : cursor.current = .ok byte) : ∃ text, rest = ascii :: text := by
  have byteEq : leadByte rest = byte := by
    simpa [stands.current_eq] using atByte
  have headEq := leadEq rest
  rw [byteEq, BEq.rfl, eq_comm, beq_iff_eq] at headEq
  exact List.head?_eq_some_iff.mp headEq

end Cursor

end Focal.Source
