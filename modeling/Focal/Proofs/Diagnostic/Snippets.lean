import Focal.Diagnostic.Terminal
import Focal.Proofs.Text.LineNumbers

/-!
# The line that a diagnostic shows

A diagnostic on a line that the source has is followed by that line and a row that points at it.
`Underlines` says which columns the row points at, without saying how it is drawn, and
`underline_underlines` that the row which is drawn is such a row.  From the text of the pieces,
`write_layout_exact` says what is written about a line that the source has and about any other.
-/

namespace Focal.Diagnostic

open Text (IsLine terminators)

/-! ## The visible part of a line -/

/-- A column of a line in which a visible character stands. -/
def Visible (text : List Char) (column : Nat) : Prop :=
  ∃ character, text[column]? = some character ∧ Unicode.isWhiteSpace character = false

/-- A row of blanks and carets has a caret in each column from the first visible character of a line
to the last one.  Under a line without visible characters it has one caret, in the column behind the
line. -/
structure Underlines (text row : List Char) : Prop where
  drawn : ∀ character ∈ row, character = ' ' ∨ character = '^'
  marks : ∀ column, row[column]? = some '^' ↔
    (∃ first last, Visible text first ∧ Visible text last ∧ first ≤ column ∧ column ≤ last) ∨
      ((∀ character ∈ text, Unicode.isWhiteSpace character = true) ∧ column = text.length)
  closed : row.getLast? = some '^'

/-- Only one row points at a line. -/
theorem Underlines.unique {text row other : List Char} (isRow : Underlines text row)
    (isOther : Underlines text other) : row = other := by
  have same : ∀ column, row[column]? = some '^' ↔ other[column]? = some '^' := fun column =>
    (isRow.marks column).trans (isOther.marks column).symm
  -- Both rows end with a caret, so neither is longer than the other.
  have notLonger : ∀ {row other : List Char}, row.getLast? = some '^' →
      (∀ column : Nat, row[column]? = some '^' → other[column]? = some '^') →
      row.length ≤ other.length := by
    intro row other closed kept
    rw [List.getLast?_eq_getElem?] at closed
    have inside := (List.getElem?_eq_some_iff.mp (kept _ closed)).1
    omega
  have lengthEq : row.length = other.length :=
    Nat.le_antisymm (notLonger isRow.closed fun column => (same column).mp)
      (notLonger isOther.closed fun column => (same column).mpr)
  refine List.ext_getElem lengthEq fun column inRow inOther => ?_
  have sameCaret := same column
  rw [List.getElem?_eq_getElem inRow, List.getElem?_eq_getElem inOther] at sameCaret
  rcases isRow.drawn _ (List.getElem_mem inRow) with blank | caret
  · rcases isOther.drawn _ (List.getElem_mem inOther) with otherBlank | otherCaret
    · rw [blank, otherBlank]
    · rw [otherCaret, Option.some.inj (sameCaret.mpr (congrArg some otherCaret))]
  · rw [caret, Option.some.inj (sameCaret.mp (congrArg some caret))]

/-- The row that is drawn under a line. -/
def underline (text : List Char) : List Char :=
  List.replicate (indentation text) ' ' ++ List.replicate (max 1 (trim text).length) '^'

theorem trim_eq (text : List Char) :
    trim text = (text.dropWhile Unicode.isWhiteSpace).rdropWhile Unicode.isWhiteSpace :=
  rfl

/-- A line is white space as long as its indentation, what trimming leaves of it, and more white
space. -/
theorem exists_indent_tail (text : List Char) :
    ∃ indent tail, indent ++ (trim text ++ tail) = text ∧ indent.length = indentation text ∧
      (∀ character ∈ indent, Unicode.isWhiteSpace character = true) ∧
      (∀ character ∈ tail, Unicode.isWhiteSpace character = true) := by
  refine ⟨text.takeWhile Unicode.isWhiteSpace,
    (text.dropWhile Unicode.isWhiteSpace).rtakeWhile Unicode.isWhiteSpace, ?_, rfl,
    fun _ => List.mem_takeWhile_imp, fun _ => List.mem_rtakeWhile_imp⟩
  rw [trim_eq, List.rdropWhile_append_rtakeWhile, List.takeWhile_append_dropWhile]

/-- Nothing is left of a line when it is blank. -/
theorem trim_eq_nil_iff {text : List Char} :
    trim text = [] ↔ ∀ character ∈ text, Unicode.isWhiteSpace character = true := by
  constructor
  · intro trimEq
    obtain ⟨indent, tail, lineEq, -, indentBlank, tailBlank⟩ := exists_indent_tail text
    rw [trimEq] at lineEq
    rw [← lineEq]
    intro character member
    exact (List.mem_append.mp member).elim (indentBlank character) (tailBlank character)
  · intro blank
    rw [trim_eq, List.dropWhile_eq_nil_iff.mpr blank, List.rdropWhile_nil]

theorem indentation_of_blank {text : List Char}
    (blank : ∀ character ∈ text, Unicode.isWhiteSpace character = true) :
    indentation text = text.length := by
  rw [indentation, List.takeWhile_eq_self_iff.mpr blank]

/-- What trimming leaves of a line stands behind the indentation. -/
theorem getElem?_indentation_add {text : List Char} {column : Nat}
    (inside : column < (trim text).length) :
    text[indentation text + column]? = (trim text)[column]? := by
  obtain ⟨indent, tail, lineEq, lengthEq, -⟩ := exists_indent_tail text
  rw [← lengthEq]
  calc text[indent.length + column]?
    _ = (indent ++ (trim text ++ tail))[indent.length + column]? := congrArg (·[_]?) lineEq.symm
    _ = (trim text ++ tail)[column]? := by
      rw [List.getElem?_append_right (Nat.le_add_right _ _), Nat.add_sub_cancel_left]
    _ = (trim text)[column]? := List.getElem?_append_left inside

/-- A visible character is neither in the indentation nor behind what trimming leaves. -/
theorem Visible.bounds {text : List Char} {column : Nat} (visible : Visible text column) :
    indentation text ≤ column ∧ column < indentation text + (trim text).length := by
  obtain ⟨character, found, isVisible⟩ := visible
  obtain ⟨indent, tail, lineEq, lengthEq, indentBlank, tailBlank⟩ := exists_indent_tail text
  have hidden : ¬ Unicode.isWhiteSpace character = true := by simp [isVisible]
  rw [← lineEq] at found
  rw [← lengthEq]
  constructor
  · by_contra! before
    rw [List.getElem?_append_left before] at found
    exact hidden (indentBlank character (List.mem_of_getElem? found))
  · by_contra! behind
    rw [← List.append_assoc, List.getElem?_append_right (by simpa using behind)] at found
    exact hidden (tailBlank character (List.mem_of_getElem? found))

/-- The first and the last of the characters that trimming leaves are visible. -/
theorem visible_ends {text : List Char} (nonempty : trim text ≠ []) :
    Visible text (indentation text) ∧
      Visible text (indentation text + ((trim text).length - 1)) := by
  have positive : 0 < (trim text).length := List.length_pos_iff.mpr nonempty
  constructor
  · refine ⟨(trim text).head nonempty, ?_, ?_⟩
    · rw [← Nat.add_zero (indentation text), getElem?_indentation_add positive,
        ← List.head?_eq_getElem?, List.head?_eq_some_head]
    · have isPrefix : trim text <+: text.dropWhile Unicode.isWhiteSpace :=
        List.rdropWhile_prefix Unicode.isWhiteSpace _
      have stops := List.head_dropWhile_not Unicode.isWhiteSpace (isPrefix.ne_nil nonempty)
      rwa [← isPrefix.head nonempty] at stops
  · refine ⟨(trim text).getLast nonempty, ?_, ?_⟩
    · rw [getElem?_indentation_add (by omega), ← List.getLast?_eq_getElem?,
        List.getLast?_eq_some_getLast]
    · exact Bool.not_eq_true _ ▸ List.rdropWhile_last_not Unicode.isWhiteSpace _ nonempty

/-! ## The row under a line -/

theorem getElem?_underline {text : List Char} {column : Nat} :
    (underline text)[column]? = some '^' ↔
      indentation text ≤ column ∧ column < indentation text + max 1 (trim text).length := by
  rw [underline, List.getElem?_append, List.length_replicate]
  split
  · rename_i before
    rw [List.getElem?_replicate, if_pos before]
    exact iff_of_false (by simp) fun bounds => absurd before (Nat.not_lt.mpr bounds.1)
  · rename_i behind
    rw [List.getElem?_replicate, Option.ite_none_right_eq_some, eq_self_iff_true, and_true]
    omega

/-- The row that is drawn under a line points at its visible part. -/
theorem underline_underlines (text : List Char) : Underlines text (underline text) where
  drawn character member :=
    (List.mem_append.mp member).imp List.eq_of_mem_replicate List.eq_of_mem_replicate
  marks column := by
    rw [getElem?_underline]
    by_cases blank : trim text = []
    · have allBlank := trim_eq_nil_iff.mp blank
      rw [blank, indentation_of_blank allBlank]
      constructor
      · intro bounds
        exact .inr ⟨allBlank, Nat.le_antisymm (Nat.le_of_lt_succ bounds.2) bounds.1⟩
      · rintro (⟨first, -, visible, -⟩ | ⟨-, rfl⟩)
        · have bounds := visible.bounds
          rw [blank, List.length_nil] at bounds
          omega
        · exact ⟨le_rfl, Nat.lt_succ_self _⟩
    · have notBlank := mt trim_eq_nil_iff.mpr blank
      have positive : 0 < (trim text).length := List.length_pos_iff.mpr blank
      have ends := visible_ends blank
      simp only [notBlank, false_and, or_false]
      constructor
      · intro bounds
        exact ⟨_, _, ends.1, ends.2, bounds.1, by omega⟩
      · rintro ⟨first, last, firstVisible, lastVisible, above, below⟩
        have firstBounds := firstVisible.bounds
        have lastBounds := lastVisible.bounds
        omega
  closed := by
    rw [underline, List.getLast?_append, List.getLast?_replicate, if_neg (by omega), Option.some_or]

/-! ## Rows of text -/

/-- Rows of text, with a line feed behind each. -/
def unlines (rows : List String) : String :=
  String.join (rows.map (· ++ "\n"))

theorem unlines_append (rows others : List String) :
    unlines (rows ++ others) = unlines rows ++ unlines others := by
  rw [unlines, List.map_append, String.join_append, unlines, unlines]

/-- A label behind a separator, or nothing. -/
def labelAfter (separator : String) : Option String → String
  | some label => separator ++ label
  | none => ""

/-- The row that says what went wrong. -/
def titleRow (diagnostic : Diagnostic) : String :=
  "error[" ++ diagnostic.code.text ++ "]: " ++ diagnostic.message

/-- The row that says where it went wrong. -/
def placeRow (origin : Origin) (line : Nat) : String :=
  gutter line ++ "--> " ++ origin.path.getD "<input>" ++ ":" ++ toString line

/-- The rows that show a line, with carets in the row under it. -/
def snippetRows (line : Nat) (text carets : List Char) (label : Option String) : List String :=
  [gutter line ++ " |",
    toString line ++ " | " ++ String.ofList text,
    gutter line ++ " | " ++ String.ofList carets ++ labelAfter " " label,
    gutter line ++ " |"]

/-- The rows for the notes and suggestions under a line. -/
def remarkRows (line : Nat) (diagnostic : Diagnostic) : List String :=
  diagnostic.notes.map (gutter line ++ " = note: " ++ ·) ++
    diagnostic.suggestions.map (gutter line ++ " = help: " ++ ·)

theorem write_append (colors : Bool) (pieces others : List Piece) :
    write colors (pieces ++ others) = write colors pieces ++ write colors others := by
  rw [write, List.map_append, String.join_append, write, write]

theorem write_snippet (line : Nat) (text : List Char) (label : Option String) :
    write false (snippet line text label) =
      unlines (snippetRows line text (underline text) label) := by
  rw [← String.toList_inj]
  cases label <;>
    simp [write, snippet, unlines, snippetRows, Piece.write, plain, styled, marker, underline,
      labelAfter, blanks]

theorem write_trailers (line : Nat) (kind : String) (style : Style) (texts : List String) :
    write false (texts.flatMap (trailer (gutter line ++ " ") kind style)) =
      unlines (texts.map (gutter line ++ (" = " ++ kind ++ ": ") ++ ·)) := by
  induction texts with
  | nil => rfl
  | cons text texts ih =>
      rw [List.flatMap_cons, write_append, ih, List.map_cons, ← List.singleton_append,
        unlines_append, ← String.toList_inj]
      simp [write, trailer, Piece.write, plain, styled, unlines]

/-- A line that the source has is shown under its place. -/
theorem write_location_of_some {origin : Origin} {diagnostic : Diagnostic} {line : Nat}
    {text : List Char} (textEq : origin.line? line = some text) :
    write false (location origin diagnostic line) =
      unlines ([placeRow origin line] ++
        snippetRows line text (underline text) diagnostic.label) := by
  have placeEq :
      write false [plain (placeRow origin line ++ "\n")] = unlines [placeRow origin line] := rfl
  rw [unlines_append, ← placeEq, ← write_snippet, ← write_append, location, textEq]
  rfl

/-- When the source does not have the line, the label stands next to the place. -/
theorem write_location_of_none {origin : Origin} {diagnostic : Diagnostic} {line : Nat}
    (missing : origin.line? line = none) :
    write false (location origin diagnostic line) =
      unlines [placeRow origin line ++ labelAfter ": " diagnostic.label] := by
  rw [location, missing, ← String.toList_inj]
  cases diagnostic.label <;>
    simp [write, unlines, Piece.write, plain, styled, placeRow, labelAfter]

/-- What is written about a line: the title, the place with the line or with the label, and the
notes and suggestions. -/
theorem write_layout {diagnostic : Diagnostic} {line : Nat} (located : diagnostic.line = some line)
    (origin : Origin) :
    write false (layout origin diagnostic) =
      unlines [titleRow diagnostic] ++
        write false (location origin diagnostic line) ++
        unlines (remarkRows line diagnostic ++ [""]) := by
  have titleEq :
      write false [styled .error "error", styled .bold ("[" ++ diagnostic.code.text ++ "]"),
        plain (": " ++ diagnostic.message ++ "\n")] = unlines [titleRow diagnostic] := by
    rw [← String.toList_inj]
    simp [write, Piece.write, plain, styled, unlines, titleRow]
  have lastEq : write false [plain "\n"] = unlines [""] := rfl
  rw [layout, located, write_append, write_append, write_append, write_append, titleEq, lastEq,
    write_trailers, write_trailers, remarkRows, unlines_append, unlines_append]
  simp only [String.append_assoc]
  rfl

/-- With no bar in front of it, a bar is the first of its row. -/
theorem idxOf?_bar {front : List Char} (absent : '|' ∉ front) (behind : List Char) :
    (front ++ '|' :: behind).idxOf? '|' = some front.length := by
  rw [List.idxOf?_eq_some_iff]
  refine ⟨by simp, by simp, fun index before => ?_⟩
  rw [List.getElem_append_left before]
  simpa using fun isBar : front[index] = '|' => absent (isBar ▸ List.getElem_mem before)

theorem toList_toString (number : Nat) : (toString number).toList = Nat.toDigits 10 number :=
  String.toList_ofList

/-- The bar of each row of a shown line stands behind as many characters as the number of the line
has, and one more. -/
theorem bar_of_mem_snippetRows {line : Nat} {text carets : List Char} {label : Option String}
    {row : String} (member : row ∈ snippetRows line text carets label) :
    row.toList.idxOf? '|' = some ((toString line).length + 1) := by
  have absentBlank : '|' ∉ (gutter line ++ " ").toList := by
    simp [gutter, blanks]
  have absentNumber : '|' ∉ (toString line ++ " ").toList := by
    rw [String.toList_append, toList_toString]
    intro member
    rcases List.mem_append.mp member with member | member
    · exact absurd (Nat.isDigit_of_mem_toDigits (by decide) (by decide) member) (by decide)
    · exact absurd member (by decide)
  have blankLength : (gutter line ++ " ").toList.length = (toString line).length + 1 := by
    simp [gutter, blanks]
  have numberLength : (toString line ++ " ").toList.length = (toString line).length + 1 := by
    rw [String.length_toList, String.length_append]
    rfl
  have found : ∃ behind, row.toList = (gutter line ++ " ").toList ++ '|' :: behind ∨
      row.toList = (toString line ++ " ").toList ++ '|' :: behind := by
    simp only [snippetRows, List.mem_cons, List.not_mem_nil, or_false] at member
    rcases member with rfl | rfl | rfl | rfl
    · exact ⟨[], .inl (by simp)⟩
    · exact ⟨' ' :: text, .inr (by simp)⟩
    · exact ⟨' ' :: (carets ++ (labelAfter " " label).toList), .inl (by simp)⟩
    · exact ⟨[], .inl (by simp)⟩
  obtain ⟨behind, rowEq | rowEq⟩ := found
  · rw [rowEq, idxOf?_bar absentBlank, blankLength]
  · rw [rowEq, idxOf?_bar absentNumber, numberLength]

/-! ## What is written about a line -/

/-- The source has a line with a number: its lines are one more than its terminators. -/
def Origin.HasLine (origin : Origin) (line : Nat) : Prop :=
  ∃ source, origin.source = some source ∧ 1 ≤ line ∧ line ≤ terminators source.toList + 1

theorem Origin.line?_eq_some_iff {origin : Origin} {line : Nat} {text : List Char} :
    origin.line? line = some text ↔
      ∃ source, origin.source = some source ∧ IsLine source.toList line text := by
  obtain ⟨source, path⟩ := origin
  cases source with
  | none => simp [line?]
  | some source =>
      cases line with
      | zero => simpa [line?] using fun isLine : IsLine _ 0 text => absurd isLine.positive (by simp)
      | succ index => simp [line?, Text.getElem?_lines_eq_some_iff]

theorem Origin.line?_eq_none_iff {origin : Origin} {line : Nat} :
    origin.line? line = none ↔ ¬ origin.HasLine line := by
  obtain ⟨source, path⟩ := origin
  cases source with
  | none => simp [line?, HasLine]
  | some source =>
      cases line with
      | zero => simp [line?, HasLine]
      | succ index =>
          change (Text.lines source.toList)[index]? = none ↔ _
          rw [List.getElem?_eq_none_iff, Text.length_lines, ← Nat.not_lt, not_iff_not]
          constructor
          · exact fun bound => ⟨source, rfl, Nat.le_add_left 1 index, bound⟩
          · rintro ⟨_, sourceEq, -, bound⟩
            obtain rfl := Option.some.inj sourceEq
            exact bound

/-- Without colours, what is written about a line that the source has shows the text of that line,
with carets from its first visible character to its last one and the bars below each other.  About
any other line, the label stands next to the place and nothing is shown. -/
theorem write_layout_exact {diagnostic : Diagnostic} {line : Nat}
    (located : diagnostic.line = some line) (origin : Origin) :
    (origin.HasLine line → ∃ source text carets, origin.source = some source ∧
      IsLine source.toList line text ∧ Underlines text carets ∧
      (∀ row ∈ snippetRows line text carets diagnostic.label,
        row.toList.idxOf? '|' = some ((toString line).length + 1)) ∧
      write false (layout origin diagnostic) =
        unlines ([titleRow diagnostic, placeRow origin line] ++
          snippetRows line text carets diagnostic.label ++ remarkRows line diagnostic ++ [""])) ∧
    (¬ origin.HasLine line →
      write false (layout origin diagnostic) =
        unlines ([titleRow diagnostic, placeRow origin line ++ labelAfter ": " diagnostic.label] ++
          remarkRows line diagnostic ++ [""])) := by
  constructor
  · intro hasLine
    obtain ⟨text, textEq⟩ :=
      Option.ne_none_iff_exists'.mp (mt Origin.line?_eq_none_iff.mp (not_not_intro hasLine))
    obtain ⟨source, sourceEq, isLine⟩ := Origin.line?_eq_some_iff.mp textEq
    refine ⟨source, text, underline text, sourceEq, isLine, underline_underlines text,
      fun row => bar_of_mem_snippetRows, ?_⟩
    rw [write_layout located, write_location_of_some textEq, ← unlines_append, ← unlines_append]
    simp
  · intro missing
    rw [write_layout located, write_location_of_none (Origin.line?_eq_none_iff.mpr missing),
      ← unlines_append, ← unlines_append]
    simp

/-- A line with a number of two digits, a tab in front of its text and a blank behind it, behind
terminators of every kind, and the same diagnostic without the source. -/
theorem write_layout_exact_indented :
    let diagnostic : Diagnostic :=
      { code := .unclosedDelimiter, message := "unbalanced `(`", line := some 10,
        label := some "opened here", notes := [], suggestions := ["add the missing `)`"] }
    let source := "\r\r\r\r\n\n\n\n\n\n\t f(b \r"
    let origin : Origin := { source := some source, path := none }
    diagnostic.line = some 10 ∧ origin.HasLine 10 ∧
      (∃ text carets, IsLine source.toList 10 text ∧ Underlines text carets ∧
        write false (layout origin diagnostic) =
          unlines ([titleRow diagnostic, placeRow origin 10] ++
            snippetRows 10 text carets diagnostic.label ++ remarkRows 10 diagnostic ++ [""])) ∧
      write false (layout origin diagnostic) =
        "error[E0005]: unbalanced `(`\n  --> <input>:10\n   |\n10 | \t f(b \n" ++
          "   |   ^^^ opened here\n   |\n   = help: add the missing `)`\n\n" ∧
      write false (layout { origin with source := none } diagnostic) =
        unlines ([titleRow diagnostic, "  --> <input>:10: opened here"] ++
          remarkRows 10 diagnostic ++ [""]) := by
  intro diagnostic source origin
  have located : diagnostic.line = some 10 := rfl
  have hasLine : origin.HasLine 10 := ⟨source, rfl, by decide, by decide⟩
  have missing : ¬ Origin.HasLine { origin with source := none } 10 := by
    rintro ⟨_, sourceEq, -⟩
    cases sourceEq
  refine ⟨located, hasLine, ?_, by decide +kernel, (write_layout_exact located _).2 missing⟩
  obtain ⟨_, text, carets, sourceEq, isLine, underlined, -, writtenEq⟩ :=
    (write_layout_exact located origin).1 hasLine
  obtain rfl := Option.some.inj sourceEq
  exact ⟨text, carets, isLine, underlined, writtenEq⟩

end Focal.Diagnostic
