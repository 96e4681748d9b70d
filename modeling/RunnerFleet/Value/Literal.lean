import RunnerFleet.Number.Shortest
import RunnerFleet.Text.Quoted
import RunnerFleet.Value

/-!
# Values in messages

Messages show a value in one of two ways: as a literal, in which texts are
quoted, or plainly, in which a text stands for itself.  Inside a list or an
object everything is shown as a literal.
-/

namespace RunnerFleet

/-- The parts of an enumeration, separated by commas. -/
def commaSeparated (parts : List String) : String :=
  ", ".intercalate parts

namespace Value

mutual

/-- A value as a literal. -/
def literal : Value → String
  | .null => "None"
  | .bool flag => if flag then "True" else "False"
  | .int number => toString number
  | .real number => Number.realText number
  | .text content => Text.quoted content
  | .list items => "[" ++ commaSeparated (itemLiterals items) ++ "]"
  | .object fields => "\x7b" ++ commaSeparated (fieldLiterals fields) ++ "\x7d"

/-- The literals of the items of a list. -/
def itemLiterals : List Value → List String
  | [] => []
  | item :: rest => literal item :: itemLiterals rest

/-- The literals of the fields of an object. -/
def fieldLiterals : List (Text × Value) → List String
  | [] => []
  | (name, value) :: rest =>
    (Text.quoted name ++ ": " ++ literal value) :: fieldLiterals rest

end

/-- A value as it stands in running text. -/
def plain : Value → Text
  | .text content => content
  | value => literal value

/-- A list of texts as a literal. -/
def textsLiteral (texts : List Text) : String :=
  literal (.list (texts.map .text))

end Value

end RunnerFleet
