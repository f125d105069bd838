import Focal.Proofs.Eval.Contexts
import Focal.Proofs.Text.OneLine

/-!
# Labels

The label of a compiled step is one line, at every depth: what a label takes from the source is a
name, which has no line terminators, a number, or a string, which is quoted
(`oneLine_of_compile`).  The proof goes through the derivation of the source, since an arbitrary
tree could hold any text as a name.
-/

namespace Focal

open Syntax Source
open Text (OneLine Inside oneLine_append oneLine_ofList)

variable {ι ν : Type}

/-! ## Labels at every depth -/

/-- The labels of a pipeline, and of those inside it, are one line each. -/
def Pipeline.OneLine (pipeline : Pipeline ι ν) : Prop :=
  ∀ inner, pipeline.Nests inner → ∀ step ∈ inner, Text.OneLine step.label

namespace Pipeline

variable {pipeline first second : Pipeline ι ν} {step : Step ι ν}

theorem oneLine_iff : pipeline.OneLine ↔ ∀ step ∈ pipeline,
    Text.OneLine step.label ∧ ∀ body, step.body? = some body → Pipeline.OneLine body := by
  constructor
  · intro oneLine step member
    exact ⟨oneLine pipeline .self step member,
      fun body held inner nests => oneLine inner (.inside member held nests)⟩
  · intro steps inner nests
    cases nests with
    | self => exact fun step member => (steps step member).1
    | inside member held nests => exact (steps _ member).2 _ held inner nests

theorem OneLine.nil : Pipeline.OneLine ([] : Pipeline ι ν) := by
  rw [oneLine_iff]
  exact List.forall_mem_nil _

theorem oneLine_append : Pipeline.OneLine (first ++ second) ↔
    first.OneLine ∧ second.OneLine := by
  rw [oneLine_iff, oneLine_iff, oneLine_iff]
  exact List.forall_mem_append

theorem oneLine_cons : Pipeline.OneLine (step :: pipeline) ↔
    (Text.OneLine step.label ∧ ∀ body, step.body? = some body → Pipeline.OneLine body) ∧
      pipeline.OneLine := by
  rw [oneLine_iff, oneLine_iff]
  exact List.forall_mem_cons

/-- A step that holds no pipeline. -/
theorem OneLine.leaf (rest : pipeline.OneLine) (label : Text.OneLine step.label)
    (holds : step.body? = none) : Pipeline.OneLine (step :: pipeline) := by
  refine oneLine_cons.mpr ⟨⟨label, fun body held => ?_⟩, rest⟩
  cases holds.symm.trans held

/-- A step that holds a pipeline. -/
theorem OneLine.holder {body : Pipeline ι ν} (inside : body.OneLine)
    (label : Text.OneLine step.label) (holds : step.body? = some body) :
    Pipeline.OneLine [step] := by
  refine oneLine_cons.mpr ⟨⟨label, fun other held => ?_⟩, .nil⟩
  obtain rfl := Option.some.inj (holds.symm.trans held)
  exact inside

end Pipeline

/-- A label with a number of steps is one line. -/
theorem Step.oneLine_counted {name : String} (oneLine : OneLine name) (count : Nat) :
    OneLine (Step.counted name count) := by
  have fixed : OneLine " (" ∧ OneLine " steps)" := by decide
  simp [Step.counted, oneLine, fixed]

/-- The label of a call is one line, whatever is called. -/
theorem Step.oneLine_call (arguments : Pipeline ι ν) : OneLine (Step.call arguments).label := by
  cases arguments with
  | nil => exact (by decide : OneLine "call ()")
  | cons first others => exact Step.oneLine_counted (by decide) _

namespace Syntax

/-- A name has no line terminators. -/
theorem Name.inside {spelled : List Char} (name : Name spelled) : Inside spelled :=
  fun character member => continuesName_inside (name.continues character member)

/-- The steps of a phrase; a blank body has none. -/
def Phrase.steps : Phrase → Pipeline ι (Value ι)
  | .term tree => tree.steps
  | .segment tree => tree.steps
  | .slot tree => tree.steps
  | .program tree => tree.steps
  | .body .blank => []
  | .body (.program tree) => tree.steps

theorem Term.oneLine_group {body : Body}
    (inside : Pipeline.OneLine ((Phrase.body body).steps : Pipeline ι (Value ι))) :
    Pipeline.OneLine ((Term.group body).steps : Pipeline ι (Value ι)) := by
  cases body with
  | blank => exact .leaf .nil (by decide : OneLine "group ()") rfl
  | program program => exact inside.holder (Step.oneLine_counted (by decide) _) rfl

theorem Term.oneLine_block {body : Body}
    (inside : Pipeline.OneLine ((Phrase.body body).steps : Pipeline ι (Value ι))) :
    Pipeline.OneLine ((Term.block body).steps : Pipeline ι (Value ι)) := by
  have words : OneLine "nothing" ∧ OneLine "commit" ∧ OneLine "closure" := by decide
  cases body with
  | blank =>
      have nothing : Pipeline.OneLine [(Step.nothing "nothing" : Step ι (Value ι)), .commit] :=
        .leaf (.leaf .nil words.2.1 rfl) words.1 rfl
      exact nothing.holder (Step.oneLine_counted words.2.2 _) rfl
  | program program => exact inside.holder (Step.oneLine_counted words.2.2 _) rfl

theorem Term.oneLine_call {target : Term} {arguments : Body}
    (called : Pipeline.OneLine (target.steps : Pipeline ι (Value ι)))
    (inside : Pipeline.OneLine ((Phrase.body arguments).steps : Pipeline ι (Value ι))) :
    Pipeline.OneLine ((Term.call target arguments).steps : Pipeline ι (Value ι)) := by
  cases arguments <;>
    exact Pipeline.oneLine_append.mpr ⟨called, inside.holder (Step.oneLine_call _) rfl⟩

theorem Slot.oneLine_last {segment : Segment}
    (only : Pipeline.OneLine (segment.steps : Pipeline ι (Value ι))) :
    Pipeline.OneLine ((Slot.last segment).steps : Pipeline ι (Value ι)) := by
  have words : OneLine "nothing" ∧ OneLine "commit" := by decide
  have commit : Pipeline.OneLine [(Step.commit : Step ι (Value ι))] :=
    .leaf .nil words.2 rfl
  cases segment with
  | empty => exact commit.leaf words.1 rfl
  | term tree => exact Pipeline.oneLine_append.mpr ⟨only, commit⟩

theorem Slot.oneLine_andThen {segment : Segment} {slot : Slot}
    (first : Pipeline.OneLine (segment.steps : Pipeline ι (Value ι)))
    (others : Pipeline.OneLine (slot.steps : Pipeline ι (Value ι))) :
    Pipeline.OneLine ((Slot.andThen segment slot).steps : Pipeline ι (Value ι)) := by
  have word : OneLine "reset" := by decide
  have reset : Pipeline.OneLine ((Step.reset : Step ι (Value ι)) :: slot.steps) :=
    others.leaf word rfl
  cases segment with
  | empty => exact reset
  | term tree => exact Pipeline.oneLine_append.mpr ⟨first, reset⟩

theorem Program.oneLine_last {slot : Slot}
    (only : Pipeline.OneLine (slot.steps : Pipeline ι (Value ι))) :
    Pipeline.OneLine ((Program.last slot).steps : Pipeline ι (Value ι)) := by
  cases slot with
  | last segment =>
      cases segment with
      | empty => exact .nil
      | term tree => exact only
  | andThen segment rest => exact only

/-- What a phrase is derived from gives every label of its steps one line. -/
theorem Derives.oneLine {phrase : Phrase} {text rest : List Char}
    (derives : Derives phrase text rest) :
    Pipeline.OneLine (phrase.steps : Pipeline ι (Value ι)) := by
  have words : OneLine "lookup " ∧ OneLine "member ." ∧ OneLine "str " ∧ OneLine "int " ∧
      OneLine "float " := by decide
  obtain ⟨lookup, member, str, int, float⟩ := words
  induction derives with
  | receiver => exact .nil
  | name name _ =>
      exact .leaf .nil (oneLine_append.mpr ⟨lookup, oneLine_ofList.mpr name.inside⟩) rfl
  | str _ => exact .leaf .nil (oneLine_append.mpr ⟨str, Text.oneLine_quoted _⟩) rfl
  | int _ _ _ => exact .leaf .nil (oneLine_append.mpr ⟨int, Text.oneLine_toString_int _⟩) rfl
  | float _ _ _ => exact .leaf .nil (oneLine_append.mpr ⟨float, Decimal.oneLine_floatText _⟩) rfl
  | group _ ih => exact Term.oneLine_group ih
  | block _ ih => exact Term.oneLine_block ih
  | call _ _ _ calledIh insideIh => exact Term.oneLine_call calledIh insideIh
  | member _ _ _ name ih =>
      have label := oneLine_append.mpr ⟨member, oneLine_ofList.mpr name.inside⟩
      exact Pipeline.oneLine_append.mpr ⟨ih, .leaf .nil label rfl⟩
  | empty _ => exact .nil
  | segment _ _ _ ih => exact ih
  | lastSegment _ ih => exact Slot.oneLine_last ih
  | semicolon _ _ firstIh othersIh => exact Slot.oneLine_andThen firstIh othersIh
  | lastSlot _ ih => exact Program.oneLine_last ih
  | comma _ _ firstIh othersIh => exact Pipeline.oneLine_append.mpr ⟨firstIh, othersIh⟩
  | blank _ => exact .nil
  | body _ _ ih => exact ih

end Syntax

/-- Every label of what a source compiles to is one line, at every depth. -/
theorem oneLine_of_compile {source : String} {pipeline : Pipeline ι (Value ι)}
    (compiled : compile source = .ok pipeline) : pipeline.OneLine := by
  obtain ⟨program, derives, rfl⟩ := compile_eq_ok_iff.mp compiled
  exact derives.oneLine

end Focal
