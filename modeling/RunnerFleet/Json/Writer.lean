import RunnerFleet.Number.Reading
import RunnerFleet.Number.Shortest
import RunnerFleet.Text.Quoted
import RunnerFleet.Value

/-!
# Writing JSON

The written form puts every item and field on a line of its own, indented by
two spaces per level; empty lists and objects stay on one line.  Every
character outside printable ASCII is escaped by its UTF-16 code units, so the
text is ASCII throughout.

An integer with too many digits is not written, and ends the writing.  What was
written before it stays written: inside an object all that stands before the
integer, inside a list all that stands before the comma or bracket in front of it.
-/

namespace RunnerFleet.Json

/-- A code unit as an escape. -/
def unitEscape (unit : Nat) : String :=
  "\\u" ++ Text.hexadecimal 4 unit

/-- One character between the quotes of a written string. -/
def escapedChar (char : Char) : String :=
  let code := char.toNat
  if char = '"' then "\\\""
  else if char = '\\' then "\\\\"
  else if char = '\n' then "\\n"
  else if char = '\r' then "\\r"
  else if char = '\t' then "\\t"
  else if char = '\x08' then "\\b"
  else if char = '\x0c' then "\\f"
  else if 0x20 ≤ code && code < 0x7F then String.singleton char
  else if code < 0x10000 then unitEscape code
  else
    let offset := code - 0x10000
    unitEscape (0xD800 + offset / 1024) ++ unitEscape (0xDC00 + offset % 1024)

/-- One code point between the quotes of a written string; a surrogate is
written by itself. -/
def escapedPoint : CodePoint → String
  | .scalar char => escapedChar char
  | point => unitEscape point.code

/-- A text as a written string. -/
def writeText (content : Text) : String :=
  "\"" ++ String.join (content.map escapedPoint) ++ "\""

/-- A real as a written number. -/
def writeReal (number : Float) : String :=
  match Number.Exact.ofFloat number with
  | .notANumber => "NaN"
  | .infinite negative => if negative then "-Infinity" else "Infinity"
  | .finite _ _ _ => Number.realText number

/-- The start of a line at a level. -/
def newLine (level : Nat) : String :=
  "\n" ++ String.ofList (List.replicate (2 * level) ' ')

/-- What is written of a value: a text, and whether it is the whole one. -/
structure Written where
  text : String
  whole : Bool
  deriving DecidableEq, Repr

namespace Written

/-- A text that is written to its end. -/
def done (text : String) : Written :=
  ⟨text, true⟩

/-- What is written after something else, unless that was not written to its end. -/
def andThen (first second : Written) : Written :=
  if first.whole then ⟨first.text ++ second.text, second.whole⟩ else first

end Written

/-- Parts between brackets, after a text; the parts start with the opening bracket. -/
def writeBlock
    (before closing : String)
    (level : Nat)
    (parts : Written) : Written :=
  (Written.done before).andThen (parts.andThen (.done (newLine level ++ closing)))

mutual

/-- A value as it is written at a level, after a text that is written together with its
first token. -/
def writeAt (level : Nat) (before : String) : Value → Written
  | .null => .done (before ++ "null")
  | .bool flag => .done (before ++ if flag then "true" else "false")
  | .int number =>
    if Number.isWritable number then .done (before ++ toString number) else ⟨"", false⟩
  | .real number => .done (before ++ writeReal number)
  | .text content => .done (before ++ writeText content)
  | .list items =>
    if items.isEmpty then
      .done (before ++ "[]")
    else
      writeBlock before "]" level (writeItems (level + 1) ("[" ++ newLine (level + 1)) items)
  | .object fields =>
    if fields.isEmpty then
      .done (before ++ "\x7b\x7d")
    else
      writeBlock before "\x7d" level
        (writeFields (level + 1) ("\x7b" ++ newLine (level + 1)) fields)

/-- The items of a list as they are written at a level, each after a text. -/
def writeItems (level : Nat) (before : String) : List Value → Written
  | [] => .done ""
  | item :: rest =>
    (writeAt level before item).andThen (writeItems level ("," ++ newLine level) rest)

/-- The fields of an object as they are written at a level, each after a text. -/
def writeFields (level : Nat) (before : String) : List (Text × Value) → Written
  | [] => .done ""
  | (name, value) :: rest =>
    (Written.done (before ++ writeText name ++ ": ")).andThen
      ((writeAt level "" value).andThen (writeFields level ("," ++ newLine level) rest))

end

/-- What is written of a value. -/
def write (value : Value) : Written :=
  writeAt 0 "" value

end RunnerFleet.Json
