import Focal.Pipeline.Step
import Focal.Value.RunError
import Focal.Value.Bindings

/-!
# Values

Beside nothing, integers, floating-point numbers and strings there are callables, containers and
objects, which are both.  A callable is a function of the host or a closure of the language; a
container is a set of bindings or a map of the host.  What the host does stands behind a handle
of type `ι`.

Each callable, container and object has an identity, the number under which it was made, and two
of them are equal exactly when their identities are.
-/

namespace Focal

/-- The number under which a callable, container or object was made. -/
abbrev Identity := Nat

mutual

/-- What a program computes with. -/
inductive Value (ι : Type) where
  /-- The value of an empty slot or group. -/
  | nothing
  | int (value : Int64)
  | float (value : Float)
  | str (text : String)
  | callable (identity : Identity) (target : Callable ι)
  | container (identity : Identity) (target : Container ι)
  /-- A host value that can be called and looked up on. -/
  | object (identity : Identity) (target : Callable ι) (members : Container ι)

/-- What can be called. -/
inductive Callable (ι : Type) where
  /-- A named function of the host. -/
  | native (name : String) (handle : ι)
  /-- The pipeline of a block, with the receiver it was made on. -/
  | closure (body : List (Step ι (Value ι))) (receiver : Value ι)

/-- What names can be looked up on. -/
inductive Container (ι : Type) where
  /-- A fixed map. -/
  | bindings (entries : Bindings (Value ι))
  /-- A named map of the host. -/
  | native (name : String) (handle : ι)

end

variable {ι : Type}

instance : Inhabited (Value ι) := ⟨.nothing⟩

/-- The name that a callable is shown by. -/
def Callable.name : Callable ι → String
  | .native name _ => name
  | .closure .. => "closure"

/-- The name that a container is shown by. -/
def Container.name : Container ι → String
  | .bindings entries => entries.name
  | .native name _ => name

namespace Value

/-- The word for what sort of value this is. -/
def typeName : Value ι → String
  | nothing => "nothing"
  | int _ => "int"
  | float _ => "float"
  | str _ => "str"
  | callable .. => "callable"
  | container .. => "container"
  | object .. => "object"

/-- The value as something to call. -/
def toCallable : Value ι → Except RunError (Callable ι)
  | callable _ target => .ok target
  | object _ target _ => .ok target
  | value => .error (.lacks .callable value.typeName)

/-- The value as something to look names up on. -/
def toContainer : Value ι → Except RunError (Container ι)
  | container _ target => .ok target
  | object _ _ members => .ok members
  | value => .error (.lacks .container value.typeName)

/-- Whether the value has a capability. -/
def has (value : Value ι) : Capability → Bool
  | .callable => value.toCallable.isOk
  | .container => value.toContainer.isOk

/-- Whether the value is `nothing`. -/
def isNothing : Value ι → Bool
  | nothing => true
  | _ => false

/-- The integer, if the value is one. -/
def int? : Value ι → Option Int64
  | int value => some value
  | _ => none

/-- The floating-point number, if the value is one. -/
def float? : Value ι → Option Float
  | float value => some value
  | _ => none

/-- The text, if the value is a string. -/
def str? : Value ι → Option String
  | str text => some text
  | _ => none

/-- Whether two values are equal: by identity if they have one, otherwise by content. -/
def same : Value ι → Value ι → Bool
  | nothing, nothing => true
  | int first, int second => first == second
  | float first, float second => first == second
  | str first, str second => first == second
  | callable first _, callable second _ => first == second
  | container first _, container second _ => first == second
  | object first _ _, object second _ _ => first == second
  | _, _ => false

end Value

end Focal
