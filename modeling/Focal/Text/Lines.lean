/-!
# Lines of a text

A line ends at a line feed, at a carriage return, or at a carriage return and line feed, which
count as one terminator.  A text has one line more than it has terminators
(`length_lines`).
-/

namespace Focal.Text

/-- Put a character in front of the first line. -/
def extendFirst (character : Char) : List (List Char) → List (List Char)
  | [] => [[character]]
  | line :: rest => (character :: line) :: rest

/-- The lines of a text without their terminators; the last one may be empty. -/
def lines : List Char → List (List Char)
  | [] => [[]]
  | '\r' :: '\n' :: rest => [] :: lines rest
  | character :: rest =>
      if character = '\n' ∨ character = '\r' then [] :: lines rest
      else extendFirst character (lines rest)

/-- The number of line terminators of a text. -/
def terminators : List Char → Nat
  | [] => 0
  | '\r' :: '\n' :: rest => terminators rest + 1
  | character :: rest =>
      if character = '\n' ∨ character = '\r' then terminators rest + 1
      else terminators rest

/-- Extending the first line of a text keeps the number of its lines. -/
theorem length_extendFirst {lines : List (List Char)} (nonempty : lines ≠ []) (character : Char) :
    (extendFirst character lines).length = lines.length := by
  cases lines with
  | nil => exact absurd rfl nonempty
  | cons line rest => rfl

/-- A text has at least one line. -/
theorem lines_ne_nil (text : List Char) : lines text ≠ [] := by
  fun_induction lines text with
  | case1 => simp
  | case2 => simp
  | case3 => simp
  | case4 character rest _ _ ih =>
      cases lines_eq : lines rest <;> simp [extendFirst]

/-- A text has one line more than it has terminators. -/
theorem length_lines (text : List Char) :
    (lines text).length = terminators text + 1 := by
  fun_induction lines text with
  | case1 => rfl
  | case2 rest ih => simp [terminators, ih]
  | case3 character rest _ ends ih => simp [terminators, ends, ih]
  | case4 character rest _ inside ih =>
      simp [terminators, inside, length_extendFirst (lines_ne_nil rest), ih]

end Focal.Text
