import Focal.Decimal.Style
import Focal.Text.Escaped
import Focal.Value.Basic

/-!
# Values as text

There are three forms: as a value is displayed to a user, with its content in the open; as it is
described to a programmer, by constructor and with strings escaped; and as it is printed, where a
string is its bare text.
-/

namespace Focal

variable {ι : Type}

namespace Value

/-- The form displayed to a user. -/
def display : Value ι → String
  | nothing => "nothing"
  | int value => toString value.toInt
  | float value => Decimal.floatText value
  | str text => "\"" ++ text ++ "\""
  | callable _ target => "<callable " ++ target.name ++ ">"
  | container _ target => "<container " ++ target.name ++ ">"
  | object _ _ members => "<object " ++ members.name ++ ">"

/-- The form that shows how the value is made. -/
def describe : Value ι → String
  | nothing => "Nothing"
  | int value => "Int(" ++ toString value.toInt ++ ")"
  | float value => "Float(" ++ Decimal.floatText value ++ ")"
  | str text => "Str(" ++ Text.quoted text ++ ")"
  | callable _ target => "Callable(" ++ target.name ++ ")"
  | container _ target => "Container(" ++ target.name ++ ")"
  | object _ _ members => "Object(" ++ members.name ++ ")"

/-- The form that is printed: a string bare, any other value as it is displayed. -/
def bare : Value ι → String
  | str text => text
  | value => value.display

end Value

/-- The form that shows how a closure is made. -/
def describeClosure (body : Pipeline ι (Value ι)) (receiver : Value ι) : String :=
  "Closure \x7b steps: " ++ toString body.length ++ ", receiver: " ++ receiver.describe ++ " \x7d"

/-- The form that shows the names that are bound. -/
def Bindings.describe {α : Type} (bindings : Bindings α) : String :=
  "Namespace \x7b name: " ++ Text.quoted bindings.name ++ ", names: [" ++
    String.intercalate ", " (bindings.names.map Text.quoted) ++ "] \x7d"

end Focal
