/-!
# Pipelines

A program runs as a pipeline: a list of steps that are applied to a context one after another.
The grammar has no branches, so neither has a pipeline; what a body in parentheses or braces runs
is a pipeline inside a step.

A step knows its label, the words by which listings and error notes name it.  Only a fixed value
and the steps that a host adds carry a label of their own; every other label follows from what
the step does.
-/

namespace Focal

/-- One transformation of a context.  The type `ι` is for what a host does, `ν` for values. -/
inductive Step (ι ν : Type) where
  /-- Put a fixed value in the place of the current one. -/
  | replace (label : String) (value : ν)
  /-- Look a name up on the receiver. -/
  | lookup (name : String)
  /-- Look a name up on the current value. -/
  | member (name : String)
  /-- Make a closure of a pipeline and the receiver. -/
  | block (body : List (Step ι ν))
  /-- Run a pipeline on the receiver and take all its results. -/
  | group (body : List (Step ι ν))
  /-- Call the current value with the results of a pipeline. -/
  | call (arguments : List (Step ι ν))
  /-- End a slot and keep its values. -/
  | commit
  /-- End a segment and drop its values. -/
  | reset
  /-- Put one value that the host computes in the place of the current one. -/
  | hostMap (label : String) (handle : ι)
  /-- Put any number of values that the host computes in the place of the current one. -/
  | hostSplice (label : String) (handle : ι)
  /-- Change the context as the host says. -/
  | hostModify (label : String) (handle : ι)

/-- Steps in the order in which they are applied. -/
abbrev Pipeline (ι ν : Type) := List (Step ι ν)

/-- What a step does to the current value. -/
inductive StepKind where
  /-- A fixed value takes its place. -/
  | replace
  /-- A value computed from it takes its place. -/
  | map
  /-- Values computed from it take its place. -/
  | splice
  /-- The context changes as a whole. -/
  | modify
deriving Repr, DecidableEq

namespace Step

variable {ι ν : Type}

/-- A label with a number of steps in parentheses. -/
def counted (name : String) (count : Nat) : String :=
  name ++ " (" ++ toString count ++ " steps)"

/-- The words that name a step. -/
def label : Step ι ν → String
  | replace label _ => label
  | lookup name => "lookup " ++ name
  | member name => "member ." ++ name
  | block body => counted "closure" body.length
  | group body => counted "group" body.length
  | call [] => "call ()"
  | call arguments => counted "call" arguments.length
  | commit => "commit"
  | reset => "reset"
  | hostMap label _ => label
  | hostSplice label _ => label
  | hostModify label _ => label

/-- What a step does to the current value. -/
def kind : Step ι ν → StepKind
  | replace .. => .replace
  | lookup .. | member .. | block .. | hostMap .. => .map
  | group .. | call .. | hostSplice .. => .splice
  | commit | reset | hostModify .. => .modify

end Step

/-- The name of a kind of step in a listing of a pipeline. -/
def StepKind.name : StepKind → String
  | .replace => "Replace"
  | .map => "Map"
  | .splice => "Splice"
  | .modify => "Modify"

/-- A step by its kind and label. -/
def Step.text {ι ν : Type} (step : Step ι ν) : String :=
  step.kind.name ++ "(" ++ step.label ++ ")"

namespace Pipeline

variable {ι ν : Type}

/-- The labels of the steps, in order. -/
def labels (pipeline : Pipeline ι ν) : List String :=
  pipeline.map Step.label

/-- A pipeline by the kinds and labels of its steps. -/
def text (pipeline : Pipeline ι ν) : String :=
  "[" ++ String.intercalate ", " (pipeline.map Step.text) ++ "]"

end Pipeline

end Focal
