/-!
# Runtime errors

Two failures come from the language itself: a value is used as something that it is not, and a
name is not bound.  Any other one comes from the host, with a message of the host's.  A pipeline
that an error passes through adds a note to it.
-/

namespace Focal

/-- What a value can be used as. -/
inductive Capability where
  /-- It can be called. -/
  | callable
  /-- Names can be looked up on it. -/
  | container
deriving Repr, DecidableEq

/-- The word for a capability. -/
def Capability.name : Capability → String
  | .callable => "callable"
  | .container => "container"

/-- What went wrong. -/
inductive Cause where
  /-- A value of the named type lacks a capability. -/
  | lacks (capability : Capability) (typeName : String)
  /-- A container does not bind a name. -/
  | unbound (name : String)
  /-- The host failed. -/
  | host (message : String)
deriving Repr, DecidableEq

/-- The message for what went wrong. -/
def Cause.message : Cause → String
  | .lacks capability typeName => typeName ++ " is not a " ++ capability.name
  | .unbound name => "undefined name: " ++ name
  | .host message => message

/-- A runtime error with the notes added on its way out, the innermost one first. -/
structure RunError where
  cause : Cause
  notes : List String
deriving Repr, DecidableEq

namespace RunError

/-- An error without notes. -/
def ofCause (cause : Cause) : RunError :=
  { cause, notes := [] }

/-- A value of the named type lacks a capability. -/
def lacks (capability : Capability) (typeName : String) : RunError :=
  ofCause (.lacks capability typeName)

/-- A container does not bind a name. -/
def unbound (name : String) : RunError :=
  ofCause (.unbound name)

/-- The host failed. -/
def host (message : String) : RunError :=
  ofCause (.host message)

/-- The message, without the notes. -/
def message (error : RunError) : String :=
  error.cause.message

/-- Add a note behind the others. -/
def addNote (error : RunError) (note : String) : RunError :=
  { error with notes := error.notes ++ [note] }

/-- Whether a value lacked a capability. -/
def isLack (error : RunError) : Bool :=
  match error.cause with
  | .lacks .. => true
  | _ => false

/-- Whether a name was not bound. -/
def isUnbound (error : RunError) : Bool :=
  match error.cause with
  | .unbound _ => true
  | _ => false

end RunError

end Focal
