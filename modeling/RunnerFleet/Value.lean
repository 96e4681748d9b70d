import RunnerFleet.Number.Exact
import RunnerFleet.Text

/-!
# Values without a fixed shape

The forge answers with JSON, and pool files are JSON.  Most of what they hold
is passed on, compared and shown without the service knowing its shape, so it
is kept as a value of this type.  Integers are unbounded and differ from reals;
the fields of an object keep their order, and no two have the same name.
-/

namespace RunnerFleet

/-- A value read from JSON. -/
inductive Value where
  | null
  | bool (flag : Bool)
  | int (number : Int)
  | real (number : Float)
  | text (content : Text)
  | list (items : List Value)
  | object (fields : List (Text × Value))
  deriving Inhabited

namespace Value

/-- Whether a value counts as given: null, false, zeros, and whatever is empty
do not. -/
def truthy : Value → Bool
  | .null => false
  | .bool flag => flag
  | .int number => number != 0
  | .real number => number != 0.0
  | .text content => !content.isEmpty
  | .list items => !items.isEmpty
  | .object fields => !fields.isEmpty

/-- The word for the kind of a value in messages. -/
def kindName : Value → String
  | .null => "NoneType"
  | .bool _ => "bool"
  | .int _ => "int"
  | .real _ => "float"
  | .text _ => "str"
  | .list _ => "list"
  | .object _ => "dict"

/-- A value, or another one in place of a value that does not count as given. -/
def orElse (value default : Value) : Value :=
  if value.truthy then value else default

/-- Whether a value is an object. -/
def isObject : Value → Bool
  | .object _ => true
  | _ => false

end Value

/-- The fields of an object. -/
abbrev Fields := List (Text × Value)

/-- The field of a name, or null. -/
def Fields.get (fields : Fields) (name : Text) : Value :=
  (fields.lookup name).getD .null

/-- The field of a name, or a default where there is none; a field that is null
is there. -/
def Fields.getOr (fields : Fields) (name : Text) (default : Value) : Value :=
  (fields.lookup name).getD default

end RunnerFleet
