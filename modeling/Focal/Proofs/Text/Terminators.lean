import Focal.Text.Lines
import Mathlib.Data.List.DropRight
import Mathlib.Data.List.TakeWhile

/-!
# Terminators of a text read in parts

A carriage return and the line feed after it are one terminator, so the terminators of two parts add
up to those of the whole only when the cut between the parts is not inside such a pair.  `Whole`
says that it is not.  A whole cut lies on one line, whose number among the lines of the text is the
number of terminators in front of the cut and whose text is `lineAround`.
-/

namespace Focal.Text

/-- A line feed or a carriage return. -/
def isTerminator (character : Char) : Bool :=
  character == '\n' || character == '\r'

/-- The cut between two parts of a text does not separate a carriage return from its line feed. -/
def Whole (before rest : List Char) : Prop :=
  before.getLast? = some '\r' → rest.head? ≠ some '\n'

/-- The text of the line on which a cut lies: what stands between the terminators around it. -/
def lineAround (before rest : List Char) : List Char :=
  before.rtakeWhile (!isTerminator ·) ++ rest.takeWhile (!isTerminator ·)

theorem isTerminator_eq_false_iff {character : Char} :
    isTerminator character = false ↔ character ≠ '\n' ∧ character ≠ '\r' := by
  simp [isTerminator]

theorem isTerminator_of_isDigit {character : Char} (digit : character.isDigit = true) :
    isTerminator character = false := by
  rw [isTerminator_eq_false_iff]
  constructor <;> rintro rfl <;> exact absurd digit (by decide)

/-! ## Whole cuts -/

theorem Whole.nil_left (rest : List Char) : Whole [] rest := by
  simp [Whole]

theorem Whole.nil_right (before : List Char) : Whole before [] := by
  simp [Whole]

theorem Whole.of_head_ne {character : Char} (before rest : List Char) (differs : character ≠ '\n') :
    Whole before (character :: rest) := by
  simp [Whole, differs]

theorem Whole.of_last_ne {character : Char} (before rest : List Char) (differs : character ≠ '\r') :
    Whole (before ++ [character]) rest := by
  simp [Whole, differs]

/-- A cut next to a character that ends no line is whole. -/
theorem Whole.of_head_inside {character : Char} (before rest : List Char)
    (inside : isTerminator character = false) : Whole before (character :: rest) :=
  Whole.of_head_ne before rest (isTerminator_eq_false_iff.mp inside).1

theorem Whole.of_last_inside {character : Char} (before rest : List Char)
    (inside : isTerminator character = false) : Whole (before ++ [character]) rest :=
  Whole.of_last_ne before rest (isTerminator_eq_false_iff.mp inside).2

theorem Whole.tail {character : Char} {before rest : List Char}
    (whole : Whole (character :: before) rest) : Whole before rest := by
  cases before with
  | nil => exact Whole.nil_left rest
  | cons => simpa [Whole] using whole

/-- A whole cut stays whole when a character that ends no line and more text follow. -/
theorem Whole.append {next : Char} {before rest : List Char} (whole : Whole before rest)
    (more : List Char) (inside : isTerminator next = false) :
    Whole before (rest ++ next :: more) := by
  cases rest with
  | nil => exact Whole.of_head_inside before more inside
  | cons => simpa [Whole] using whole

/-- A whole cut stays whole when a character that ends no line and more text stand in front. -/
theorem Whole.behind {previous : Char} {before rest : List Char} (whole : Whole before rest)
    (earlier : List Char) (inside : isTerminator previous = false) :
    Whole (earlier ++ previous :: before) rest := by
  cases before with
  | nil => exact Whole.of_last_inside earlier rest inside
  | cons => simpa [Whole, List.getLast?_append] using whole

/-- A whole cut moved over characters other than carriage returns is whole. -/
theorem Whole.advance {before read rest : List Char} (whole : Whole before (read ++ rest))
    (absent : '\r' ∉ read) : Whole (before ++ read) rest := by
  by_cases empty : read = []
  · simpa [empty] using whole
  · intro lastEq
    rw [List.getLast?_append, List.getLast?_eq_some_getLast empty, Option.some_or] at lastEq
    exact absurd (Option.some.inj lastEq ▸ List.getLast_mem empty) absent

/-! ## Counting terminators -/

theorem terminators_cons {character : Char} (rest : List Char)
    (inside : isTerminator character = false) :
    terminators (character :: rest) = terminators rest := by
  have differ := isTerminator_eq_false_iff.mp inside
  rw [terminators.eq_3 _ _ fun _ isReturn => absurd isReturn differ.2]
  simp [differ]

theorem lines_cons {character : Char} (rest : List Char) (inside : isTerminator character = false) :
    lines (character :: rest) = extendFirst character (lines rest) := by
  have differ := isTerminator_eq_false_iff.mp inside
  rw [lines.eq_3 _ _ fun _ isReturn => absurd isReturn differ.2]
  simp [differ]

theorem terminators_return_cons {rest : List Char} (single : rest.head? ≠ some '\n') :
    terminators ('\r' :: rest) = terminators rest + 1 := by
  rw [terminators.eq_3 _ _ fun _ _ restEq => single (by rw [restEq]; rfl)]
  simp

theorem terminators_feed_cons (rest : List Char) :
    terminators ('\n' :: rest) = terminators rest + 1 := by
  simp [terminators]

/-- The terminators of the parts around a whole cut add up. -/
theorem terminators_append {before rest : List Char} (whole : Whole before rest) :
    terminators (before ++ rest) = terminators before + terminators rest := by
  fun_induction terminators before with
  | case1 => simp
  | case2 before ih =>
      simp only [List.cons_append, terminators, ih whole.tail.tail]
      omega
  | case3 character before single ends ih =>
      rcases ends with rfl | rfl
      · simp only [List.cons_append, terminators_feed_cons, ih whole.tail]
        omega
      · have headNe : (before ++ rest).head? ≠ some '\n' := by
          cases before with
          | nil => simpa [Whole] using whole
          | cons next before =>
              intro headEq
              have nextEq : next = '\n' := by simpa using headEq
              exact single before rfl (by rw [nextEq])
        rw [List.cons_append, terminators_return_cons headNe, ih whole.tail]
        omega
  | case4 character before single inside ih =>
      have kept : isTerminator character = false := by simpa [isTerminator] using inside
      rw [List.cons_append, terminators_cons _ kept, ih whole.tail]

/-- Characters that are no terminators can be added to a part without counting. -/
theorem terminators_append_of_inside {read : List Char} (before : List Char)
    (inside : ∀ character ∈ read, isTerminator character = false) :
    terminators (before ++ read) = terminators before := by
  have whole : Whole before read := by
    intro _ headEq
    exact absurd (inside _ (List.mem_of_head? headEq)) (by decide)
  have noneInside : terminators read = 0 := by
    clear whole
    induction read with
    | nil => rfl
    | cons character read ih =>
        rw [terminators_cons _ (inside character List.mem_cons_self)]
        exact ih fun other member => inside other (List.mem_cons_of_mem _ member)
  rw [terminators_append whole, noneInside, Nat.add_zero]

theorem terminators_eq_zero_iff {text : List Char} :
    terminators text = 0 ↔ ∀ character ∈ text, isTerminator character = false := by
  constructor
  · intro countEq
    fun_induction terminators text with
    | case1 => simp
    | case2 => omega
    | case3 => omega
    | case4 character text _ inside ih =>
        intro other member
        rcases List.mem_cons.mp member with rfl | member
        · simpa [isTerminator] using inside
        · exact ih countEq other member
  · intro inside
    exact terminators_append_of_inside [] inside

theorem terminators_le_length (text : List Char) : terminators text ≤ text.length := by
  fun_induction terminators text with
  | case1 => simp
  | case2 rest ih =>
      simp only [List.length_cons]
      omega
  | case3 character rest _ _ ih =>
      rw [List.length_cons]
      omega
  | case4 character rest _ _ ih =>
      rw [List.length_cons]
      omega

/-! ## The line of a cut -/

theorem head?_lines (text : List Char) :
    (lines text).head? = some (text.takeWhile (!isTerminator ·)) := by
  fun_induction lines text with
  | case1 => rfl
  | case2 => simp [isTerminator]
  | case3 character text _ ends => rcases ends with rfl | rfl <;> simp [isTerminator]
  | case4 character text _ inside ih =>
      have kept : isTerminator character = false := by simpa [isTerminator] using inside
      cases linesEq : lines text with
      | nil => exact absurd linesEq (lines_ne_nil text)
      | cons line rest =>
          rw [linesEq] at ih
          simpa [extendFirst, kept] using ih

theorem lineAround_cons_of_terminator {character : Char} (before rest : List Char)
    (ends : isTerminator character = true) :
    lineAround (character :: before) rest = lineAround before rest := by
  have stops : [character].takeWhile (!isTerminator ·) = [] := by simp [ends]
  rw [lineAround, List.rtakeWhile, List.reverse_cons, List.takeWhile_append, stops, lineAround,
    List.rtakeWhile]
  split
  · rename_i lengthEq
    rw [(List.takeWhile_prefix _).eq_of_length lengthEq, List.append_nil]
  · rfl

theorem lineAround_cons_of_inside {character : Char} {before : List Char} (rest : List Char)
    (inside : isTerminator character = false) :
    lineAround (character :: before) rest =
      if terminators before = 0 then character :: lineAround before rest
      else lineAround before rest := by
  split
  · rename_i countEq
    have allInside := terminators_eq_zero_iff.mp countEq
    have taken : before.reverse.takeWhile (!isTerminator ·) = before.reverse := by
      rw [List.takeWhile_eq_self_iff]
      intro other member
      simp [allInside other (List.mem_reverse.mp member)]
    simp [lineAround, List.rtakeWhile, List.takeWhile_append, taken, inside]
  · rename_i countNe
    have dropped :
        ¬ (before.reverse.takeWhile (!isTerminator ·)).length = before.reverse.length := by
      intro lengthEq
      have taken := List.takeWhile_eq_self_iff.mp
        ((List.takeWhile_prefix (!isTerminator ·)).eq_of_length lengthEq)
      refine countNe (terminators_eq_zero_iff.mpr fun other member => ?_)
      simpa using taken other (List.mem_reverse.mpr member)
    rw [lineAround, List.rtakeWhile, List.reverse_cons, List.takeWhile_append, if_neg dropped,
      lineAround, List.rtakeWhile]

/-- Among the lines of a text, the one on which a whole cut lies has as many lines in front of it as
there are terminators in front of the cut. -/
theorem getElem?_lines {before rest : List Char} (whole : Whole before rest) :
    (lines (before ++ rest))[terminators before]? = some (lineAround before rest) := by
  fun_induction terminators before with
  | case1 => simp [← List.head?_eq_getElem?, head?_lines, lineAround]
  | case2 before ih =>
      rw [lineAround_cons_of_terminator _ _ rfl, lineAround_cons_of_terminator _ _ rfl]
      simpa [lines] using ih whole.tail.tail
  | case3 character before single ends ih =>
      have unpaired : ∀ other, character = '\r' → before ++ rest = '\n' :: other → False := by
        intro other isReturn restEq
        cases before with
        | nil => simp [Whole, isReturn, show rest = '\n' :: other from restEq] at whole
        | cons next before =>
            have nextEq : next = '\n' := by simpa using (List.cons.inj restEq).1
            exact single before isReturn (by rw [nextEq])
      rw [lineAround_cons_of_terminator _ _ (by simpa [isTerminator] using ends), List.cons_append,
        lines.eq_3 _ _ unpaired, if_pos ends]
      simpa using ih whole.tail
  | case4 character before single inside ih =>
      have kept : isTerminator character = false := by simpa [isTerminator] using inside
      rw [lineAround_cons_of_inside _ kept, List.cons_append, lines_cons _ kept]
      have found := ih whole.tail
      cases linesEq : lines (before ++ rest) with
      | nil => exact absurd linesEq (lines_ne_nil _)
      | cons line others =>
          rw [linesEq] at found
          cases countEq : terminators before with
          | zero => simpa [extendFirst, countEq] using found
          | succ count => simpa [extendFirst, countEq] using found

end Focal.Text
