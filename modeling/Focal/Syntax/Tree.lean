/-!
# Syntax trees

A program is a sequence of slots, each of which yields values.

```
program  ::=  slot ("," slot)*
slot     ::=  segment (";" segment)*
segment  ::=  nothing, or a term
term     ::=  primary trailer*
primary  ::=  "this" | name | string | number | "(" body ")" | "{" body "}"
trailer  ::=  "(" body ")" | "." name
body     ::=  white space, or a program
```

The trailers of a term are nested to the left: the last one is the outermost constructor.  The
tree holds every slot and segment that the source has, the empty ones included.
-/

namespace Focal.Syntax

mutual

/-- A primary and the trailers after it. -/
inductive Term where
  /-- The receiver itself. -/
  | receiver
  /-- A name, looked up on the receiver. -/
  | name (name : String)
  /-- A string literal by its decoded text. -/
  | str (text : String)
  /-- An integer literal. -/
  | int (value : Int64)
  /-- A literal with a fraction. -/
  | float (value : Float)
  /-- A body in parentheses, evaluated where it stands. -/
  | group (body : Body)
  /-- A body in braces, kept for later. -/
  | block (body : Body)
  /-- A call with the values of a body as its arguments. -/
  | call (target : Term) (arguments : Body)
  /-- A name, looked up on the value before it. -/
  | member (target : Term) (name : String)

/-- What stands between two separators. -/
inductive Segment where
  | empty
  | term (term : Term)

/-- Segments, of which only the last one yields values. -/
inductive Slot where
  | last (segment : Segment)
  | andThen (segment : Segment) (rest : Slot)

/-- Slots, whose values follow one another. -/
inductive Program where
  | last (slot : Slot)
  | andThen (slot : Slot) (rest : Program)

/-- What stands between two delimiters. -/
inductive Body where
  /-- White space alone. -/
  | blank
  | program (program : Program)

end

instance : Inhabited Term := ⟨.receiver⟩

/-- The segment of a term that may be missing. -/
def Segment.ofTerm? : Option Term → Segment
  | none => .empty
  | some value => .term value

/-- A slot with segments in front of it, the nearest one first. -/
def Slot.behind (slot : Slot) (earlier : List Segment) : Slot :=
  earlier.foldl (fun rest segment => .andThen segment rest) slot

/-- A program with slots in front of it, the nearest one first. -/
def Program.behind (program : Program) (earlier : List Slot) : Program :=
  earlier.foldl (fun rest slot => .andThen slot rest) program

end Focal.Syntax
