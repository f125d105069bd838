import Focal.CommandLine.Script
import Focal.Proofs.Diagnostic.Snippets
import Focal.Proofs.Pipeline.Labels

/-!
# The listing of a pipeline

A listing has one row for each step: the number of the step, as wide as the number of steps, two
blanks and the label.  Since no label has a line terminator, the rows are the lines of the listing
(`lines_unlines`), and since all numbers are equally wide, the labels can be read off the lines
(`listedLabels_numbered`).  What this means for a source is said by `list_exact`.
-/

namespace Focal.Script

open Diagnostic (blanks unlines)
open Text (lines lines_append_feed OneLine)

/-! ## Rows as lines -/

/-- Rows without line terminators are the lines of the text that they are written into, but for the
empty one behind the last line feed. -/
theorem lines_unlines {rows : List String} (oneLine : ∀ row ∈ rows, OneLine row) :
    lines (unlines rows).toList = rows.map String.toList ++ [[]] := by
  induction rows with
  | nil => rfl
  | cons row rows ih =>
      obtain ⟨first, others⟩ := List.forall_mem_cons.mp oneLine
      have textEq : (unlines (row :: rows)).toList =
          row.toList ++ '\n' :: (unlines rows).toList := by
        simp [unlines]
      rw [textEq, lines_append_feed first, ih others, List.map_cons, List.cons_append]

/-! ## Numbers in front of labels -/

/-- A number with blanks in front of it, as wide as is said. -/
def RightAligned (width number : Nat) (text : String) : Prop :=
  text.length = width ∧ ∃ count, text = blanks count ++ toString number

/-- The numbers up to a number are no wider. -/
theorem length_toString_mono {number count : Nat} (bound : number ≤ count) :
    (toString number).length ≤ (toString count).length := by
  have positive : 0 < (toString count).length := Nat.length_repr_pos
  have countLess := (Nat.length_repr_le_iff positive).mp (Nat.le_refl _)
  exact (Nat.length_repr_le_iff positive).mpr (Nat.lt_of_le_of_lt bound countLess)

theorem rightAligned_alignRight {number count : Nat} (bound : number ≤ count) :
    RightAligned (toString count).length number (alignRight (toString count).length number) := by
  have narrower := length_toString_mono bound
  refine ⟨?_, _, rfl⟩
  rw [alignRight, String.length_append, blanks, String.length_ofList, List.length_replicate]
  exact Nat.sub_add_cancel narrower

/-- The rows of a listing. -/
def rows (labels : List String) : List String :=
  (labels.zipIdx 1).map fun (label, number) =>
    alignRight (toString labels.length).length number ++ "  " ++ label

theorem numbered_eq (labels : List String) : numbered labels = unlines (rows labels) := by
  rw [numbered, unlines, rows, List.map_map]
  rfl

theorem length_rows (labels : List String) : (rows labels).length = labels.length := by
  rw [rows, List.length_map, List.length_zipIdx]

theorem getElem?_rows (labels : List String) (index : Nat) :
    (rows labels)[index]? = labels[index]?.map fun label =>
      alignRight (toString labels.length).length (index + 1) ++ "  " ++ label := by
  rw [rows, List.getElem?_map, List.getElem?_zipIdx, Option.map_map, Nat.add_comm 1]
  rfl

theorem oneLine_alignRight (width number : Nat) : OneLine (alignRight width number) := by
  have blank : OneLine (blanks (width - (toString number).length)) := by
    rw [blanks, Text.oneLine_ofList]
    exact Text.inside_replicate (by decide) _
  exact Text.oneLine_append.mpr ⟨blank, Text.oneLine_repr number⟩

/-- The rows for labels of one line are one line each. -/
theorem oneLine_rows {labels : List String} (oneLine : ∀ label ∈ labels, OneLine label) :
    ∀ row ∈ rows labels, OneLine row := by
  have separator : OneLine "  " := by decide
  intro row member
  obtain ⟨⟨label, number⟩, isEntry, rfl⟩ := List.mem_map.mp member
  have isLabel := List.fst_mem_of_mem_zipIdx isEntry
  exact Text.oneLine_append.mpr ⟨Text.oneLine_append.mpr
    ⟨oneLine_alignRight _ number, separator⟩, oneLine label isLabel⟩

/-! ## Labels in a listing -/

/-- What the lines of a listing say behind their numbers, which are as wide as the number of lines,
and two blanks. -/
def listedLabels (listing : String) : List String :=
  let shown := (lines listing.toList).dropLast
  shown.map fun row => String.ofList (row.drop ((toString shown.length).length + 2))

/-- Behind a number of the right width and two blanks stands the label. -/
theorem RightAligned.drop {width number : Nat} {text : String}
    (aligned : RightAligned width number text) (label : String) :
    String.ofList ((text ++ "  " ++ label).toList.drop (width + 2)) = label := by
  have frontLength : (text ++ "  ").toList.length = width + 2 := by
    rw [String.length_toList, String.length_append, aligned.1]
    rfl
  rw [String.toList_append, ← frontLength, List.drop_left, String.ofList_toList]

/-- The labels of a listing can be read off it. -/
theorem listedLabels_numbered {labels : List String} (oneLine : ∀ label ∈ labels, OneLine label) :
    listedLabels (numbered labels) = labels := by
  have shownEq : (lines (numbered labels).toList).dropLast = (rows labels).map String.toList := by
    rw [numbered_eq, lines_unlines (oneLine_rows oneLine), List.dropLast_concat]
  rw [listedLabels, shownEq, List.map_map, List.length_map, length_rows]
  refine List.ext_getElem? fun index => ?_
  rw [List.getElem?_map, getElem?_rows, Option.map_map]
  cases labelEq : labels[index]? with
  | none => rfl
  | some label =>
      have bound : index + 1 ≤ labels.length := (List.getElem?_eq_some_iff.mp labelEq).1
      exact congrArg some ((rightAligned_alignRight bound).drop label)

/-! ## The listing of a source -/

variable {source : String} {pipeline : Pipeline Prelude.Function PreludeValue}

theorem check_of_compile (compiled : compile source = .ok pipeline) :
    check source = .ok pipeline.length := by
  rw [check, Script.pipeline, compiled]
  rfl

theorem list_of_compile (compiled : compile source = .ok pipeline) :
    list source = .ok (numbered pipeline.labels) := by
  rw [list, Script.pipeline, compiled]
  rfl

/-- The listing of a source that compiles has as many rows as checking it counts steps, and its
lines are these rows, each with a line feed behind it.  Each row holds its number, as wide as the
number of steps, two blanks, and the label of the step with that number.  No label of a step, at
whatever depth, has a line terminator, so that the labels can be read off the listing. -/
theorem list_exact (compiled : compile source = .ok pipeline) :
    (∃ listing rows, list source = .ok listing ∧ check source = .ok rows.length ∧
      listing = unlines rows ∧ lines listing.toList = rows.map String.toList ++ [[]] ∧
      rows.length = pipeline.length ∧
      (∀ index label, pipeline.labels[index]? = some label → ∃ number,
        RightAligned (toString rows.length).length (index + 1) number ∧
          rows[index]? = some (number ++ "  " ++ label)) ∧
      listedLabels listing = pipeline.labels) ∧
    ∀ inner, pipeline.Nests inner → ∀ label ∈ inner.labels, OneLine label := by
  have nested : ∀ inner, pipeline.Nests inner → ∀ label ∈ inner.labels, OneLine label :=
    fun inner nests => List.forall_mem_map.mpr (oneLine_of_compile compiled inner nests)
  have oneLine := nested pipeline .self
  have countEq : (rows pipeline.labels).length = pipeline.length := by
    rw [length_rows, Pipeline.labels, List.length_map]
  refine ⟨⟨_, rows pipeline.labels, list_of_compile compiled, ?_, numbered_eq _, ?_, countEq, ?_,
    listedLabels_numbered oneLine⟩, nested⟩
  · rw [check_of_compile compiled, countEq]
  · rw [numbered_eq, lines_unlines (oneLine_rows oneLine)]
  · intro index label labelEq
    have bound : index + 1 ≤ pipeline.labels.length := (List.getElem?_eq_some_iff.mp labelEq).1
    rw [length_rows]
    refine ⟨_, rightAligned_alignRight bound, ?_⟩
    rw [getElem?_rows, labelEq]
    rfl

/-- Ten steps, of which the last one has a number of two digits, and a string of a line feed. -/
theorem list_exact_tenSteps :
    ∃ pipeline : Pipeline Prelude.Function PreludeValue,
      compile "1,2,3,4,\"\n\"" = .ok pipeline ∧
      check "1,2,3,4,\"\n\"" = .ok 10 ∧
      list "1,2,3,4,\"\n\"" = .ok (" 1  int 1\n 2  commit\n 3  int 2\n 4  commit\n" ++
        " 5  int 3\n 6  commit\n 7  int 4\n 8  commit\n 9  str \"\\n\"\n10  commit\n") ∧
      (∃ listing, list "1,2,3,4,\"\n\"" = .ok listing ∧
        listedLabels listing = pipeline.labels) ∧
      ∀ inner, pipeline.Nests inner → ∀ label ∈ inner.labels, OneLine label := by
  have compiled := @compile_of_read Prelude.Function "1,2,3,4,\"\n\""
    (.andThen (.last (.term (.int 1))) (.andThen (.last (.term (.int 2)))
      (.andThen (.last (.term (.int 3))) (.andThen (.last (.term (.int 4)))
        (.last (.last (.term (.str "\n")))))))) rfl
  obtain ⟨⟨listing, _, listed, -, -, -, -, -, readBack⟩, nested⟩ := list_exact compiled
  refine ⟨_, compiled, check_of_compile compiled, ?_, ⟨listing, listed, readBack⟩, nested⟩
  rw [list_of_compile compiled]
  exact congrArg Except.ok (by decide +kernel)

end Focal.Script
