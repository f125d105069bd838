import Focal.Proofs.Source.Between

/-!
# Scanning loops on lists of characters

What the loops of the scanner step over, said of the characters behind the cursor.  Runs of one
class are `takeWhile` and `dropWhile`; a string ends where `closeQuote` finds its closing quote; a
span ends where `cutSpan` finds its closing delimiter.
-/

namespace Focal.Source

open Focal.Text (terminators isTerminator isTerminator_of_isDigit Whole)

/-! ## Where runs of one class stop -/

theorem eq_false_of_dropWhile_eq_cons {test : Char → Bool} {text behind : List Char} {found : Char}
    (restEq : text.dropWhile test = found :: behind) : test found = false := by
  simpa [restEq] using List.head?_dropWhile_not test text

theorem any_head?_dropWhile (test : Char → Bool) (text : List Char) :
    (text.dropWhile test).head?.any test = false := by
  cases restEq : text.dropWhile test with
  | nil => rfl
  | cons found behind => exact eq_false_of_dropWhile_eq_cons restEq

/-! ## Marks of a string -/

/-- A byte at which the scan of a string has to stop and look. -/
def isStringMark (byte : UInt8) : Bool :=
  byte == byteQuote || byte == byteBackslash || isLineEnd byte

variable (first last : Nat)

/-! ## One turn of a loop -/

namespace Cursor

section Loop

variable {ε σ α : Type} {stalled : ε} {turn : σ → Cursor → Except ε (Turn σ α)} {state next : σ}
  {cursor after : Cursor}

theorem loop_of_stop {result : α} (turned : turn state cursor = .ok (.stop result after)) :
    loop stalled turn state cursor = .ok (result, after) := by
  rw [loop, turned]

theorem loop_of_error {failure : ε} (turned : turn state cursor = .error failure) :
    loop stalled turn state cursor = .error failure := by
  rw [loop, turned]

theorem loop_of_next (turned : turn state cursor = .ok (.next next after))
    (nearer : after.remaining < cursor.remaining) :
    loop stalled turn state cursor = loop stalled turn next after := by
  rw [loop, turned]
  simp only [nearer, if_true]

/-- A turn that steps over characters brings the cursor nearer to the end. -/
theorem remaining_between_lt {before read rest : List Char} (nonempty : read ≠ []) :
    (between first last (before ++ read) rest).remaining <
      (between first last before (read ++ rest)).remaining := by
  have positive := length_encode_pos nonempty
  simp only [remaining_between, encode_append, List.length_append]
  omega

end Loop

/-! ## Runs of one class -/

/-- Stepping over the bytes of a class of ASCII characters. -/
theorem skipWhile_between {test : UInt8 → Bool} {passes : Char → Bool}
    (agree : ∀ text, test (leadByte text) = text.head?.any passes)
    (inside : ∀ character, passes character = true →
      character.val.toNat < 128 ∧ isTerminator character = false)
    (before text : List Char) :
    (between first last before text).skipWhile test =
      .ok (between first last (before ++ text.takeWhile passes) (text.dropWhile passes)) := by
  suffices looped : loop .stalled (runTurn test) () (between first last before text) =
      .ok ((), between first last (before ++ text.takeWhile passes) (text.dropWhile passes)) by
    rw [skipWhile, looped]
    rfl
  induction text generalizing before with
  | nil =>
      apply loop_of_stop
      simp [runTurn, agree, pure_eq_ok]
  | cons character rest ih =>
      by_cases pass : passes character = true
      · obtain ⟨small, notTerminator⟩ := inside character pass
        have turned : runTurn test () (between first last before (character :: rest)) =
            .ok (.next () (between first last (before ++ [character]) rest)) := by
          rw [runTurn, current_between, ok_bind, agree]
          simp [pass, skipByte_between first last before rest small notTerminator, pure_eq_ok]
        rw [loop_of_next turned
          (remaining_between_lt first last (List.cons_ne_nil character [])), ih]
        simp [pass]
      · apply loop_of_stop
        rw [runTurn, current_between, ok_bind, agree]
        simp [pass, pure_eq_ok]

/-- A space or a tab. -/
def isBlank (character : Char) : Bool :=
  character == ' ' || character == '\t'

/-- A blank or a line terminator, which mean nothing between two tokens. -/
def isTrivia (character : Char) : Bool :=
  isBlank character || isTerminator character

theorem isBlankByte_leadByte (text : List Char) :
    isBlankByte (leadByte text) = text.head?.any isBlank := by
  rw [isBlankByte, leadByte_beq ' ' byteSpace rfl (by decide),
    leadByte_beq '\t' byteTab rfl (by decide)]
  cases text <;> simp [isBlank]

theorem isLineEnd_leadByte (text : List Char) :
    isLineEnd (leadByte text) = text.head?.any isTerminator := by
  rw [isLineEnd, leadByte_beq '\n' byteLineFeed rfl (by decide),
    leadByte_beq '\r' byteReturn rfl (by decide)]
  cases text <;> simp [isTerminator]

theorem isBlank_inside {character : Char} (blank : isBlank character = true) :
    character.val.toNat < 128 ∧ isTerminator character = false := by
  have isSpaceOrTab : character = ' ' ∨ character = '\t' := by simpa [isBlank] using blank
  rcases isSpaceOrTab with rfl | rfl <;> decide

theorem isDigit_leadByte (text : List Char) :
    isDigit (leadByte text) = text.head?.any Char.isDigit := by
  cases text with
  | nil => decide
  | cons character rest =>
      rw [Bool.eq_iff_iff]
      rcases toNat_firstByte character with ⟨firstEq, _⟩ | ⟨firstLarge, large⟩
      · simp [isDigit, leadByte, Char.isDigit, UInt8.le_iff_toNat_le, UInt32.le_iff_toNat_le,
          firstEq]
      · have toNatEq : character.toNat = character.val.toNat := rfl
        simp [isDigit, leadByte, Char.isDigit, UInt8.le_iff_toNat_le, UInt32.le_iff_toNat_le]
        omega

theorem isDigit_inside {character : Char} (digit : character.isDigit = true) :
    character.val.toNat < 128 ∧ isTerminator character = false := by
  have range : 48 ≤ character.val.toNat ∧ character.val.toNat ≤ 57 := by
    simpa [Char.isDigit, UInt32.le_iff_toNat_le] using digit
  exact ⟨by omega, isTerminator_of_isDigit digit⟩

/-! ## Trivia -/

theorem isTrivia_of_mem_splitTerminator {character : Char} {text : List Char}
    (member : character ∈ (splitTerminator text).1) : isTrivia character = true := by
  revert member
  fun_cases splitTerminator text with
  | case1 rest =>
      intro member
      have isReturnOrFeed : character = '\r' ∨ character = '\n' := by simpa using member
      rcases isReturnOrFeed with rfl | rfl <;> decide
  | case2 other rest _ ends =>
      intro member
      have isOther : character = other := by simpa using member
      simp [isTrivia, isOther, ends]
  | case3 => simp
  | case4 => simp

theorem head?_of_splitTerminator_eq_nil {text : List Char}
    (unended : (splitTerminator text).1 = []) : text.head?.any isTerminator = false := by
  revert unended
  fun_cases splitTerminator text with
  | case1 => simp
  | case2 => simp
  | case3 character rest _ inside => simpa using inside
  | case4 => simp

/-- One turn over trivia steps over some of it, and it is the last one only when none is left. -/
private theorem exists_triviaTurn {before text : List Char} (whole : Whole before text)
    (room : first + terminators (before ++ text) ≤ last) :
    ∃ read rest, text = read ++ rest ∧ (∀ character ∈ read, isTrivia character = true) ∧
      Whole (before ++ read) rest ∧
      (triviaTurn () (between first last before text) =
          .ok (.stop () (between first last (before ++ read) rest)) ∧
          rest.head?.any isTrivia = false ∨
        triviaTurn () (between first last before text) =
          .ok (.next () (between first last (before ++ read) rest)) ∧ read ≠ []) := by
  have spaced : (between first last before text).skipBlanks =
      .ok (between first last (before ++ text.takeWhile isBlank) (text.dropWhile isBlank)) :=
    skipWhile_between first last isBlankByte_leadByte (fun _ => isBlank_inside) before text
  have stopped := any_head?_dropWhile isBlank text
  have blankOfMem : ∀ character ∈ text.takeWhile isBlank, isBlank character = true :=
    fun _ member => List.mem_takeWhile_imp member
  have textEq := List.takeWhile_append_dropWhile (p := isBlank) (l := text)
  generalize text.takeWhile isBlank = blanks at *
  generalize text.dropWhile isBlank = behind at *
  subst textEq
  have noReturn : '\r' ∉ blanks := fun member => absurd (blankOfMem _ member) (by decide)
  have ended := skipLineEnd_between first last (whole.advance noReturn)
    (by simpa using room)
  refine ⟨blanks ++ (splitTerminator behind).1, (splitTerminator behind).2, ?_, ?_, ?_, ?_⟩
  · rw [List.append_assoc, splitTerminator_append]
  · intro character member
    rcases List.mem_append.mp member with member | member
    · simp [isTrivia, blankOfMem _ member]
    · exact isTrivia_of_mem_splitTerminator member
  · rw [← List.append_assoc]
    exact whole_splitTerminator (whole.advance noReturn)
  · rw [triviaTurn, spaced, ok_bind, ended, ok_bind, ← List.append_assoc]
    cases firstEq : (splitTerminator behind).1 with
    | nil =>
        have restEq := splitTerminator_append behind
        rw [firstEq, List.nil_append] at restEq
        have inside := head?_of_splitTerminator_eq_nil firstEq
        refine Or.inl ⟨rfl, ?_⟩
        rw [restEq]
        cases behind with
        | nil => rfl
        | cons character rest => simp_all [isTrivia]
    | cons character terminator => exact Or.inr ⟨rfl, by simp⟩

/-- Stepping over the trivia that a text starts with. -/
theorem skipTrivia_between {before text : List Char} (whole : Whole before text)
    (room : first + terminators (before ++ text) ≤ last) :
    (between first last before text).skipTrivia =
      .ok (between first last (before ++ text.takeWhile isTrivia) (text.dropWhile isTrivia)) := by
  suffices looped : loop .stalled triviaTurn () (between first last before text) =
      .ok ((), between first last (before ++ text.takeWhile isTrivia)
        (text.dropWhile isTrivia)) by
    rw [skipTrivia, looped]
    rfl
  induction lengthEq : text.length using Nat.strong_induction_on generalizing before text with
  | _ length ih =>
      obtain ⟨read, rest, rfl, trivia, wholeBehind, ⟨turned, stopped⟩ | ⟨turned, nonempty⟩⟩ :=
        exists_triviaTurn first last whole room
      · have noneLeft : rest.takeWhile isTrivia = [] ∧ rest.dropWhile isTrivia = rest := by
          cases rest with
          | nil => exact ⟨rfl, rfl⟩
          | cons character rest => simp_all
        rw [loop_of_stop turned, List.takeWhile_append_of_pos trivia,
          List.dropWhile_append_of_pos trivia, noneLeft.1, noneLeft.2, List.append_nil]
      · have shorter : rest.length < length := by
          have positive := List.length_pos_iff.mpr nonempty
          rw [← lengthEq, List.length_append]
          omega
        rw [loop_of_next turned (remaining_between_lt first last nonempty),
          ih rest.length shorter wholeBehind (by simpa using room) rfl,
          List.takeWhile_append_of_pos trivia, List.dropWhile_append_of_pos trivia,
          List.append_assoc]

/-! ## The next mark in a string -/

/-- A character at which the scan of a string has to stop and look. -/
def isMark (character : Char) : Bool :=
  character == '"' || character == '\\' || isTerminator character

theorem isStringMark_leadByte (text : List Char) :
    isStringMark (leadByte text) = text.head?.any isMark := by
  rw [isStringMark, leadByte_beq '"' byteQuote rfl (by decide),
    leadByte_beq '\\' byteBackslash rfl (by decide), isLineEnd_leadByte]
  cases text <;> simp [isMark]

/-- No byte of a character that is no mark is one. -/
theorem isStringMark_of_mem {character : Char} (unmarked : isMark character = false) {byte : UInt8}
    (member : byte ∈ String.utf8EncodeChar character) : isStringMark byte = false := by
  by_cases small : character.val.toNat < 128
  · have oneByte := utf8Size_of_ascii small
    rw [← String.length_utf8EncodeChar] at oneByte
    obtain ⟨only, bytesEq⟩ := List.length_eq_one_iff.mp oneByte
    have isFirst : byte = leadByte [character] := by
      simp only [leadByte, firstByte, bytesEq, List.headD_cons]
      simpa [bytesEq] using member
    rw [isFirst, isStringMark_leadByte]
    simpa using unmarked
  · have large := le_toNat_of_mem_utf8EncodeChar (Nat.le_of_not_lt small) member
    have differs : ∀ mark : UInt8, mark.toNat < 128 → byte ≠ mark := by
      intro mark markSmall byteEq
      rw [byteEq] at large
      omega
    simp [isStringMark, isLineEnd, differs byteQuote (by decide), differs byteBackslash (by decide),
      differs byteLineFeed (by decide), differs byteReturn (by decide)]

/-- A search stops at a byte that passes its test and goes on behind one that fails it. -/
theorem find?_of_read {text : PaddedText} {position : Nat} {byte : UInt8}
    (inside : position < text.length) (read : text.bytes[position]? = some byte)
    (test : UInt8 → Bool) :
    text.find? test position =
      if test byte then some position else text.find? test (position + 1) := by
  rw [PaddedText.find?, dif_pos inside, read]

theorem le_of_find?_eq_some {text : PaddedText} {test : UInt8 → Bool} {start position : Nat}
    (found : text.find? test start = some position) : start ≤ position := by
  fun_induction text.find? test start with
  | case1 start inside byte read pass => exact Nat.le_of_eq (Option.some.inj found)
  | case2 start inside byte read fail ih => exact Nat.le_of_succ_le (ih found)
  | case3 => cases found
  | case4 => cases found

/-- The earlier one of the finds of two searches is the find of a search for either. -/
theorem merge_find? (text : PaddedText) (first second : UInt8 → Bool) (start : Nat) :
    Option.merge min (text.find? first start) (text.find? second start) =
      text.find? (fun byte => first byte || second byte) start := by
  fun_induction text.find? (fun byte => first byte || second byte) start with
  | case1 start inside byte read pass =>
      -- One search stops here; the other one stops here too, or further on, or nowhere.
      have behind : ∀ test position, text.find? test (start + 1) = some position →
          min start position = start ∧ min position start = start := by
        intro test position found
        have later := le_of_find?_eq_some found
        omega
      rw [find?_of_read inside read, find?_of_read inside read]
      cases atFirst : first byte with
      | true =>
          cases atSecond : second byte with
          | true => simp
          | false =>
              cases found : text.find? second (start + 1) with
              | none => simp
              | some position => simp [(behind second position found).1]
      | false =>
          have atSecond : second byte = true := by simpa [atFirst] using pass
          cases found : text.find? first (start + 1) with
          | none => simp [atSecond]
          | some position => simp [atSecond, (behind first position found).2]
  | case2 start inside byte read fail ih =>
      have neither : first byte = false ∧ second byte = false := by simpa using fail
      rw [find?_of_read inside read, find?_of_read inside read, neither.1, neither.2]
      simpa using ih
  | case3 start inside read =>
      have ends : ∀ test, text.find? test start = none := fun test => by
        rw [PaddedText.find?, dif_pos inside, read]
      rw [ends, ends]
      rfl
  | case4 start outside =>
      have ends : ∀ test, text.find? test start = none := fun test => by
        rw [PaddedText.find?, dif_neg outside]
      rw [ends, ends]
      rfl

/-- A search passes over bytes that fail its test. -/
private theorem find?_eq_of_unmarked {text : PaddedText} {test : UInt8 → Bool} {position : Nat}
    (count : Nat) (inside : position + count ≤ text.length)
    (fails : ∀ index < count, ∃ byte, text.bytes[position + index]? = some byte ∧
      test byte = false) :
    text.find? test position = text.find? test (position + count) := by
  induction count generalizing position with
  | zero => rfl
  | succ count ih =>
      obtain ⟨byte, read, fail⟩ := fails 0 (Nat.succ_pos count)
      have next := @ih (position + 1) (by omega) fun index below => by
        have later := fails (index + 1) (by omega)
        rwa [show position + (index + 1) = position + 1 + index by omega] at later
      rw [Nat.add_zero] at read
      rw [find?_of_read (by omega) read, if_neg (by simp [fail]), next,
        show position + 1 + count = position + (count + 1) by omega]

/-- The search for a mark stops at the first character that is one. -/
theorem find?_padded (before text : List Char) :
    (padded (before ++ text)).find? isStringMark (encode before).length =
      if text.dropWhile (!isMark ·) = [] then none
      else some (encode (before ++ text.takeWhile (!isMark ·))).length := by
  induction text generalizing before with
  | nil => rw [PaddedText.find?, dif_neg (by simp)]; rfl
  | cons character rest ih =>
      have positive := length_encode_pos (List.cons_ne_nil character rest)
      have inside : (encode before).length < (padded (before ++ character :: rest)).length := by
        rw [length_padded, encode_append, List.length_append]
        omega
      cases marked : isMark character with
      | true =>
          have tested := isStringMark_leadByte (character :: rest)
          rw [find?_of_read inside (getElem?_bytes_padded before (character :: rest))]
          simp [tested, marked]
      | false =>
          have passed : (padded (before ++ character :: rest)).find? isStringMark
              (encode before).length =
                (padded (before ++ [character] ++ rest)).find? isStringMark
                  (encode (before ++ [character])).length := by
            rw [find?_eq_of_unmarked character.utf8Size (by simp)]
            · simp
            · intro index below
              have inChar : index < (String.utf8EncodeChar character).length := by simpa using below
              exact ⟨(String.utf8EncodeChar character)[index],
                getElem?_bytes_padded_add before rest inChar,
                isStringMark_of_mem marked (List.getElem_mem inChar)⟩
          rw [passed, ih]
          simp [marked]

/-- The two searches for a mark of a string come to one search for any of them. -/
theorem seekStringMark_eq {cursor : Cursor} (inside : cursor.position ≤ cursor.text.length) :
    cursor.seekStringMark = cursor.moveTo (cursor.text.find? isStringMark cursor.position) := by
  have marks : isStringMark = fun byte => isMarkButReturn byte || byte == byteReturn := by
    funext byte
    simp only [isStringMark, isMarkButReturn, isLineEnd, Bool.or_assoc]
  rw [seekStringMark, if_neg (Nat.not_lt.mpr inside), marks]
  simp only [merge_find?]

/-- Moving to the next mark of a string, or to the end of the text when there is none. -/
theorem seekStringMark_between (before text : List Char) :
    (between first last before text).seekStringMark =
      .ok (if text.dropWhile (!isMark ·) = [] then none
          else some (leadByte (text.dropWhile (!isMark ·))),
        between first last (before ++ text.takeWhile (!isMark ·))
          (text.dropWhile (!isMark ·))) := by
  have textEq := List.takeWhile_append_dropWhile (p := (!isMark ·)) (l := text)
  have inside : ∀ character ∈ text.takeWhile (!isMark ·), isTerminator character = false := by
    intro character member
    have unmarked : isMark character = false := by simpa using List.mem_takeWhile_imp member
    simp_all [isMark]
  have linesEq := Text.terminators_append_of_inside before inside
  rw [seekStringMark_eq (by simp), text_between, position_between, find?_padded]
  generalize text.takeWhile (!isMark ·) = plain at *
  generalize text.dropWhile (!isMark ·) = behind at *
  subst textEq
  by_cases ended : behind = []
  · subst ended
    simp [moveTo, between, linesEq, pure_eq_ok]
  · have moved : { between first last before (plain ++ behind) with
          position := (encode (before ++ plain)).length } =
        between first last (before ++ plain) behind := by
      simp [between, linesEq]
    simp only [ended, if_false, moveTo, moved, current_between, ok_bind, pure_eq_ok]

/-! ## One line terminator or one character -/

/-- Behind a backslash or inside a span a scan steps over a line terminator or else over a
character. -/
theorem exists_step {before : List Char} {character : Char} {text : List Char}
    (whole : Whole before (character :: text))
    (room : first + terminators (before ++ character :: text) ≤ last) :
    ∃ read rest, character :: text = read ++ rest ∧ Whole (before ++ read) rest ∧
      (read = [character] ∨ read = ['\r', '\n']) ∧
      ((between first last before (character :: text)).skipLineEnd =
          .ok (true, between first last (before ++ read) rest) ∨
        (between first last before (character :: text)).skipLineEnd =
            .ok (false, between first last before (character :: text)) ∧
          (between first last before (character :: text)).skipChar =
            .ok (between first last (before ++ read) rest) ∧
          isTerminator character = false) := by
  have ended := skipLineEnd_between first last whole room
  have wholeBehind := whole_splitTerminator whole
  rcases splitTerminator_cons character text with
    ⟨splitEq, inside⟩ | splitEq | ⟨rest, rfl, rfl, splitEq⟩
  · rw [splitEq, List.append_nil] at ended
    exact ⟨[character], text, rfl, Whole.of_last_inside _ _ inside, Or.inl rfl,
      Or.inr ⟨ended, skipChar_between _ _ _ _ inside, inside⟩⟩
  · rw [splitEq] at ended wholeBehind
    exact ⟨[character], text, rfl, wholeBehind, Or.inl rfl, Or.inl ended⟩
  · rw [splitEq] at ended wholeBehind
    exact ⟨['\r', '\n'], rest, rfl, wholeBehind, Or.inr rfl, Or.inl ended⟩

/-! ## Strings as they stand -/

/-- A cut further on in a text than one behind some of its characters. -/
def further (read : List Char) (cut : Option (List Char × List Char)) :
    Option (List Char × List Char) :=
  cut.map fun (content, rest) => (read ++ content, rest)

@[simp]
theorem further_none (read : List Char) : further read none = none :=
  rfl

@[simp]
theorem further_some (read content rest : List Char) :
    further read (some (content, rest)) = some (read ++ content, rest) :=
  rfl

@[simp]
theorem further_nil (cut : Option (List Char × List Char)) : further [] cut = cut := by
  cases cut <;> rfl

@[simp]
theorem further_further (first second : List Char) (cut : Option (List Char × List Char)) :
    further first (further second cut) = further (first ++ second) cut := by
  cases cut with
  | none => rfl
  | some found => simp [further]

theorem further_eq_some_iff {read content rest : List Char} {cut : Option (List Char × List Char)} :
    further read cut = some (content, rest) ↔
      ∃ inner, cut = some (inner, rest) ∧ content = read ++ inner := by
  cases cut with
  | none => simp
  | some found =>
      rcases found with ⟨inner, behind⟩
      constructor
      · intro cutEq
        obtain ⟨rfl, rfl⟩ : read ++ inner = content ∧ behind = rest := by simpa using cutEq
        exact ⟨inner, rfl, rfl⟩
      · rintro ⟨_, cutEq, rfl⟩
        obtain ⟨rfl, rfl⟩ : inner = _ ∧ behind = rest := by simpa using cutEq
        rfl

/-- The content of a string from behind its opening quote, and the text behind its closing one.
The flag says whether the next character stands behind a backslash. -/
def closeQuote : Bool → List Char → Option (List Char × List Char)
  | _, [] => none
  | true, character :: rest => further [character] (closeQuote false rest)
  | false, character :: rest =>
      if character = '"' then some ([], rest)
      else further [character] (closeQuote (character == '\\') rest)

theorem eq_append_of_closeQuote {escaped : Bool} {text content rest : List Char} :
    closeQuote escaped text = some (content, rest) → text = content ++ '"' :: rest := by
  fun_induction closeQuote escaped text generalizing content with
  | case1 => simp
  | case2 character text ih =>
      intro closed
      obtain ⟨inner, found, rfl⟩ := further_eq_some_iff.mp closed
      simp [ih found]
  | case3 text => simp_all
  | case4 character text differs ih =>
      intro closed
      obtain ⟨inner, found, rfl⟩ := further_eq_some_iff.mp closed
      simp [ih found]

/-- Characters that are neither quotes nor backslashes belong to the content of a string. -/
theorem closeQuote_append {plain : List Char} (rest : List Char)
    (differ : ∀ character ∈ plain, character ≠ '"' ∧ character ≠ '\\') :
    closeQuote false (plain ++ rest) = further plain (closeQuote false rest) := by
  induction plain with
  | nil => simp
  | cons character plain ih =>
      obtain ⟨notQuote, notBackslash⟩ := differ character List.mem_cons_self
      rw [List.cons_append, closeQuote, if_neg notQuote, beq_false_of_ne notBackslash,
        ih fun other member => differ other (List.mem_cons_of_mem character member),
        further_further, List.singleton_append]

/-- A line terminator behind a backslash belongs to the content of a string as a whole. -/
theorem closeQuote_escaped {character : Char} {read : List Char} (rest : List Char)
    (step : read = [character] ∨ read = ['\r', '\n']) :
    closeQuote true (read ++ rest) = further read (closeQuote false rest) := by
  rcases step with rfl | rfl
  · rfl
  · simp [closeQuote]

/-- What a scan over a string does at a mark, where `close` says what the string comes to at its
closing quote and `unclosed` what it comes to without one. -/
def markTurn {α : Type} (close : Cursor → Except Fault α) (unclosed : α) (mark : Option UInt8)
    (found : Cursor) : Except Fault (Turn Unit α) :=
  match mark with
  | none => return .stop unclosed found
  | some byte => do
      if byte == byteQuote then
        let result ← close found
        return .stop result (← found.skipByte)
      else if byte == byteBackslash then
        let escaped ← found.skipByte
        if ← escaped.isEnd then return .stop unclosed escaped
        else
          let (ended, after) ← escaped.skipLineEnd
          if ended then return .next () after
          else return .next () (← escaped.skipChar)
      else
        let (_, after) ← found.skipLineEnd
        return .next () after

/-- One turn of a scan over a string: up to the next mark, and what is to be done there. -/
def quotedTurn {α : Type} (close : Cursor → Except Fault α) (unclosed : α) (_ : Unit)
    (cursor : Cursor) : Except Fault (Turn Unit α) := do
  let (mark, found) ← cursor.seekStringMark
  markTurn close unclosed mark found

theorem skipQuotedTurn_eq : skipQuotedTurn = quotedTurn (fun _ => .ok true) false :=
  rfl

section Quoted

variable {α : Type} (close : Cursor → Except Fault α) (unclosed : α)

/-- At a mark the scan is at the end of a text without a closing quote, or at the closing quote, or
steps over some of the content. -/
private theorem exists_markTurn {before text : List Char} (whole : Whole before text)
    (room : first + terminators (before ++ text) ≤ last) (marked : text.head?.all isMark = true) :
    let turn := markTurn close unclosed (if text = [] then none else some (leadByte text))
      (between first last before text)
    (turn = .ok (.stop unclosed (between first last (before ++ text) [])) ∧
        closeQuote false text = none) ∨
      (∃ rest, text = '"' :: rest ∧ turn = do
        let result ← close (between first last before text)
        return .stop result (between first last (before ++ ['"']) rest)) ∨
      ∃ read rest, text = read ++ rest ∧ read ≠ [] ∧ Whole (before ++ read) rest ∧
        turn = .ok (.next () (between first last (before ++ read) rest)) ∧
        closeQuote false text = further read (closeQuote false rest) := by
  have quoteAt := leadByte_beq '"' byteQuote rfl (by decide)
  have backslashAt := leadByte_beq '\\' byteBackslash rfl (by decide)
  cases text with
  | nil =>
      left
      simp [markTurn, closeQuote, pure_eq_ok]
  | cons mark tail =>
      have isMarked : mark = '"' ∨ mark = '\\' ∨ isTerminator mark = true := by
        simpa [isMark, or_assoc] using marked
      rcases isMarked with rfl | rfl | ends
      · have closed := @skipByte_between first last '"' before tail (by decide) rfl
        refine Or.inr (Or.inl ⟨tail, rfl, ?_⟩)
        simp [markTurn, quoteAt, closed, pure_eq_ok]
      · have opened := @skipByte_between first last '\\' before tail (by decide) rfl
        have wholeOpened : Whole (before ++ ['\\']) tail := Whole.of_last_ne _ _ (by decide)
        cases tail with
        | nil =>
            left
            simp [markTurn, quoteAt, backslashAt, opened, closeQuote, pure_eq_ok]
        | cons escaped tail =>
            obtain ⟨read, rest, textEq, wholeRead, step, stepped⟩ :=
              exists_step first last wholeOpened (by simpa using room)
            refine Or.inr (Or.inr ⟨'\\' :: read, rest, by simp [textEq], by simp,
              by simpa using wholeRead, ?_, ?_⟩)
            · rcases stepped with ended | ⟨ended, moved, _⟩
              · simp [markTurn, quoteAt, backslashAt, opened, ended, pure_eq_ok]
              · simp [markTurn, quoteAt, backslashAt, opened, ended, moved, pure_eq_ok]
            · simp [closeQuote, textEq, closeQuote_escaped rest step]
      · obtain ⟨read, rest, textEq, wholeRead, step, stepped⟩ := exists_step first last whole room
        have differ : mark ≠ '"' ∧ mark ≠ '\\' := by
          constructor <;> rintro rfl <;> exact absurd ends (by decide)
        have kept : ∀ character ∈ read, character ≠ '"' ∧ character ≠ '\\' := by
          rcases step with rfl | rfl
          · simpa using differ
          · simp
        have nonempty : read ≠ [] := by
          rcases step with rfl | rfl <;> simp
        refine Or.inr (Or.inr ⟨read, rest, textEq, nonempty, wholeRead, ?_, ?_⟩)
        · rcases stepped with ended | ⟨_, _, inside⟩
          · simp [markTurn, quoteAt, backslashAt, differ, ended, pure_eq_ok]
          · exact absurd ends (by simp [inside])
        · rw [textEq, closeQuote_append rest kept]

/-- One turn over a string steps to the end of the text when it has no closing quote, or behind its
closing quote, or over some of its content. -/
private theorem exists_quotedTurn {before text : List Char} (whole : Whole before text)
    (room : first + terminators (before ++ text) ≤ last) :
    (quotedTurn close unclosed () (between first last before text) =
        .ok (.stop unclosed (between first last (before ++ text) [])) ∧
        closeQuote false text = none) ∨
      (∃ content rest, closeQuote false text = some (content, rest) ∧
        quotedTurn close unclosed () (between first last before text) = do
          let result ← close (between first last (before ++ content) ('"' :: rest))
          return .stop result (between first last (before ++ content ++ ['"']) rest)) ∨
      ∃ read rest, text = read ++ rest ∧ read ≠ [] ∧ Whole (before ++ read) rest ∧
        quotedTurn close unclosed () (between first last before text) =
          .ok (.next () (between first last (before ++ read) rest)) ∧
        closeQuote false text = further read (closeQuote false rest) := by
  have sought := seekStringMark_between first last before text
  have plainOfMem : ∀ character ∈ text.takeWhile (!isMark ·), isMark character = false := by
    intro character member
    simpa using List.mem_takeWhile_imp member
  have marked : (text.dropWhile (!isMark ·)).head?.all isMark = true := by
    cases dropEq : text.dropWhile (!isMark ·) with
    | nil => rfl
    | cons character rest => simpa using eq_false_of_dropWhile_eq_cons dropEq
  have textEq := List.takeWhile_append_dropWhile (p := (!isMark ·)) (l := text)
  generalize text.takeWhile (!isMark ·) = plain at *
  generalize text.dropWhile (!isMark ·) = behind at *
  subst textEq
  have contentEq := closeQuote_append behind fun character member => by
    have unmarked := plainOfMem character member
    simp_all [isMark]
  have noReturn : '\r' ∉ plain := fun member => absurd (plainOfMem _ member) (by decide)
  rw [quotedTurn, sought, ok_bind, contentEq]
  rcases exists_markTurn first last close unclosed (whole.advance noReturn)
      (by rwa [List.append_assoc]) marked with
    ⟨turned, closed⟩ | ⟨rest, rfl, turned⟩ | ⟨read, rest, rfl, nonempty, wholeRead, turned, closed⟩
  · left
    exact ⟨by simp [turned], by rw [closed, further_none]⟩
  · exact Or.inr (Or.inl ⟨plain, rest, by simp [closeQuote], turned⟩)
  · refine Or.inr (Or.inr ⟨plain ++ read, rest, by simp, by simp [nonempty],
      by simpa using wholeRead, ?_, ?_⟩)
    · rw [← List.append_assoc]
      exact turned
    · rw [closed, further_further]

/-- A scan over a string ends at its closing quote, or at the end of the text when it has none. -/
theorem loop_quotedTurn {before text : List Char} (whole : Whole before text)
    (room : first + terminators (before ++ text) ≤ last) :
    loop .stalled (quotedTurn close unclosed) () (between first last before text) =
      match closeQuote false text with
      | none => .ok (unclosed, between first last (before ++ text) [])
      | some (content, rest) => do
          let result ← close (between first last (before ++ content) ('"' :: rest))
          return (result, between first last (before ++ content ++ ['"']) rest) := by
  induction lengthEq : text.length using Nat.strong_induction_on generalizing before text with
  | _ length ih =>
      rcases exists_quotedTurn first last close unclosed whole room with
        ⟨turned, closed⟩ | ⟨content, rest, closed, turned⟩ |
        ⟨read, rest, rfl, nonempty, wholeRead, turned, closed⟩
      · rw [loop_of_stop turned, closed]
      · rw [closed]
        cases closes : close (between first last (before ++ content) ('"' :: rest)) with
        | error fault =>
            rw [closes, error_bind] at turned
            rw [loop_of_error turned]
            simp [closes]
        | ok result =>
            rw [closes, ok_bind, pure_eq_ok] at turned
            rw [loop_of_stop turned]
            simp [closes, pure_eq_ok]
      · have shorter : rest.length < length := by
          have positive := List.length_pos_iff.mpr nonempty
          rw [← lengthEq, List.length_append]
          omega
        rw [loop_of_next turned (remaining_between_lt first last nonempty),
          ih rest.length shorter wholeRead (by simpa using room) rfl, closed]
        cases closeQuote false rest with
        | none => simp
        | some cut =>
            rcases cut with ⟨content, behind⟩
            simp

end Quoted

/-- Stepping over a string leads behind its closing quote, or to the end of the text when it has
none. -/
theorem skipQuoted_between {before text : List Char}
    (room : first + terminators (before ++ '"' :: text) ≤ last) :
    (between first last before ('"' :: text)).skipQuoted =
      .ok (match closeQuote false text with
        | none => (false, between first last (before ++ '"' :: text) [])
        | some (content, rest) =>
            (true, between first last (before ++ '"' :: content ++ ['"']) rest)) := by
  have whole : Whole (before ++ ['"']) text := Whole.of_last_ne _ _ (by decide)
  rw [skipQuoted, skipByte_between _ _ _ _ (by decide) rfl, ok_bind, skipQuotedTurn_eq,
    loop_quotedTurn first last _ _ whole (by simpa using room)]
  cases closeQuote false text with
  | none => simp
  | some cut =>
      rcases cut with ⟨content, rest⟩
      simp [pure_eq_ok]

end Cursor

end Focal.Source
