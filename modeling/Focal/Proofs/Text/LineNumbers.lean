import Focal.Proofs.Text.Terminators

/-!
# Lines by their numbers

A line of a text is a stretch without terminators between two terminators, or the ends of the text.
Its number is one more than the number of terminators in front of it.  So there is exactly one line
for each number up to the number of lines (`exists_isLine`, `IsLine.unique`), and it is the one that
splitting the text gives in that place (`getElem?_lines_eq_some_iff`).
-/

namespace Focal.Text

/-- A stretch of a text is the line with a number, counted from one. -/
def IsLine (text : List Char) (number : Nat) (line : List Char) : Prop :=
  ∃ before behind, text = before ++ (line ++ behind) ∧
    Whole before (line ++ behind) ∧ terminators before + 1 = number ∧
    (∀ character ∈ line, isTerminator character = false) ∧
    (∀ last ∈ before.getLast?, isTerminator last = true) ∧
    (∀ next ∈ behind.head?, isTerminator next = true)

/-- The line on which the cut in front of a line lies is that line. -/
theorem lineAround_eq {before line behind : List Char}
    (inside : ∀ character ∈ line, isTerminator character = false)
    (fresh : ∀ last ∈ before.getLast?, isTerminator last = true)
    (ended : ∀ next ∈ behind.head?, isTerminator next = true) :
    lineAround before (line ++ behind) = line := by
  have noneBefore : before.rtakeWhile (!isTerminator ·) = [] := by
    rw [List.rtakeWhile_eq_nil_iff]
    intro nonempty
    simp [fresh _ (List.getLast_mem_getLast? nonempty)]
  have lineTaken : (line ++ behind).takeWhile (!isTerminator ·) = line := by
    rw [List.takeWhile_append_of_pos fun character member => by simp [inside character member]]
    cases behind with
    | nil => simp
    | cons next behind => simp [ended next rfl]
  rw [lineAround, noneBefore, lineTaken, List.nil_append]

theorem IsLine.getElem?_lines {text line : List Char} {index : Nat}
    (isLine : IsLine text (index + 1) line) : (lines text)[index]? = some line := by
  obtain ⟨before, behind, rfl, whole, countEq, inside, fresh, ended⟩ := isLine
  have found := Text.getElem?_lines whole
  rwa [lineAround_eq inside fresh ended, Nat.succ.inj countEq] at found

/-- Lines are counted from one. -/
theorem IsLine.positive {text line : List Char} {number : Nat} (isLine : IsLine text number line) :
    1 ≤ number := by
  obtain ⟨before, -, -, -, rfl, -⟩ := isLine
  exact Nat.le_add_left 1 _

/-- A text has at most one line with a number. -/
theorem IsLine.unique {text line other : List Char} {number : Nat}
    (isLine : IsLine text number line) (isOther : IsLine text number other) : line = other := by
  obtain ⟨index, rfl⟩ := Nat.exists_eq_add_of_le' isLine.positive
  exact Option.some.inj (isLine.getElem?_lines.symm.trans isOther.getElem?_lines)

/-- The first line of a text. -/
theorem isLine_one (text : List Char) : IsLine text 1 (text.takeWhile (!isTerminator ·)) := by
  refine ⟨[], text.dropWhile (!isTerminator ·), by simp, Whole.nil_left _, rfl, ?_, by simp, ?_⟩
  · intro character member
    simpa using List.mem_takeWhile_imp member
  · intro next headEq
    have stops := List.head?_dropWhile_not (!isTerminator ·) text
    rw [Option.mem_def.mp headEq] at stops
    simpa using stops

/-- Text in front of a text moves its lines by the terminators it has.  Only the first line needs a
terminator right in front of it. -/
theorem IsLine.behind {front text line : List Char} {number : Nat}
    (isLine : IsLine text number line) (whole : Whole front text)
    (fresh : number = 1 → ∀ last ∈ front.getLast?, isTerminator last = true) :
    IsLine (front ++ text) (terminators front + number) line := by
  obtain ⟨before, behind, rfl, cut, rfl, inside, ends, ended⟩ := isLine
  have wholeBefore : Whole front before := by
    cases before with
    | nil => exact Whole.nil_right front
    | cons => simpa [Whole] using whole
  refine ⟨front ++ before, behind, by simp, ?_, ?_, inside, ?_, ended⟩
  · cases before using List.reverseRecOn with
    | nil => simpa using whole
    | append_singleton => simpa [Whole, ← List.append_assoc] using cut
  · rw [terminators_append wholeBefore, Nat.add_assoc]
  · cases before using List.reverseRecOn with
    | nil => simpa using fresh rfl
    | append_singleton => simpa [← List.append_assoc] using ends

/-- A text has a line for each number from one to one more than its terminators. -/
theorem exists_isLine {text : List Char} {index : Nat} (bound : index ≤ terminators text) :
    ∃ line, IsLine text (index + 1) line := by
  -- A line behind the first one is a line of the text behind the first terminator or character.
  fun_induction terminators text generalizing index with
  | case1 =>
      obtain rfl := Nat.le_zero.mp bound
      exact ⟨_, isLine_one []⟩
  | case2 rest ih =>
      cases index with
      | zero => exact ⟨_, isLine_one _⟩
      | succ index =>
          obtain ⟨line, isLine⟩ := ih (Nat.le_of_succ_le_succ bound)
          have isLater := isLine.behind (Whole.of_last_ne ['\r'] rest (by decide : '\n' ≠ '\r'))
            (by simp [isTerminator])
          exact ⟨line, by simpa [terminators, Nat.add_comm] using isLater⟩
  | case3 character rest single ends ih =>
      cases index with
      | zero => exact ⟨_, isLine_one _⟩
      | succ index =>
          obtain ⟨line, isLine⟩ := ih (Nat.le_of_succ_le_succ bound)
          have whole : Whole [character] rest := by
            intro lastEq headEq
            obtain ⟨tail, rfl⟩ := List.head?_eq_some_iff.mp headEq
            exact single tail (by simpa using lastEq) rfl
          have isLater := isLine.behind whole fun _ => by simpa [isTerminator] using ends
          exact ⟨line, by simpa [terminators, ends, Nat.add_comm] using isLater⟩
  | case4 character rest single inside ih =>
      cases index with
      | zero => exact ⟨_, isLine_one _⟩
      | succ index =>
          obtain ⟨line, isLine⟩ := ih bound
          have kept : isTerminator character = false := by simpa [isTerminator] using inside
          have isLater := isLine.behind (Whole.of_last_inside [] rest kept) (by simp)
          exact ⟨line, by simpa [terminators_cons [] kept, terminators] using isLater⟩

/-- Splitting a text gives each line in the place of its number. -/
theorem getElem?_lines_eq_some_iff {text line : List Char} {index : Nat} :
    (lines text)[index]? = some line ↔ IsLine text (index + 1) line := by
  refine ⟨fun found => ?_, IsLine.getElem?_lines⟩
  have bound : index < terminators text + 1 :=
    length_lines text ▸ (List.getElem?_eq_some_iff.mp found).1
  obtain ⟨other, isOther⟩ := exists_isLine (Nat.le_of_lt_succ bound)
  have otherEq := found.symm.trans isOther.getElem?_lines
  rwa [Option.some.inj otherEq]

example : IsLine "a\r\n\rb".toList 2 [] :=
  getElem?_lines_eq_some_iff.mp rfl

end Focal.Text
