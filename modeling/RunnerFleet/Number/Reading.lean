import RunnerFleet.Text.Blank
import RunnerFleet.Text.Digit
import RunnerFleet.Text.Quoted

/-!
# Reading numbers

Integers and reals in settings are written with digits of any script, with
single underscores allowed between digits, blanks around, and a sign in front.
A real may have a point, an exponent, or be one of the words for infinity and
for the value that is no number.  A surrogate is no part of a number.

An integer is refused for its length before anything that follows its digits is
looked at.
-/

namespace RunnerFleet.Number

open RunnerFleet.Text

/-- The most digits an integer's text may have. -/
def digitLimit : Nat := 4300

/-- Why a text is no number. -/
inductive ReadFault where
  | notInteger (text : Text)
  | notReal (text : Text)
  | tooManyDigits (count : Nat)
  deriving DecidableEq, Repr

/-- The report of a text that is no number. -/
def ReadFault.message : ReadFault → String
  | .notInteger text =>
    "invalid literal for int() with base 10: " ++ String.ofList ((quoted text).toList.take 200)
  | .notReal text => "could not convert string to float: " ++ quoted text
  | .tooManyDigits count =>
    "Exceeds the limit (" ++ toString digitLimit
      ++ " digits) for integer string conversion: value has " ++ toString count
      ++ " digits; use sys.set_int_max_str_digits() to increase the limit"

/-- Whether an integer has few enough digits to be written. -/
def isWritable (number : Int) : Bool :=
  number.natAbs < Nat.pow 10 digitLimit

/-- The report of an integer that is not written because of its digits. -/
def unwritableMessage : String :=
  "Exceeds the limit (" ++ toString digitLimit
    ++ " digits) for integer string conversion; use sys.set_int_max_str_digits() to increase the"
    ++ " limit"

/-- The number that a list of decimal digits denotes. -/
def ofDigits (digits : List Nat) : Nat :=
  digits.foldl (fun total digit => 10 * total + digit) 0

/-- The digits of a non-empty run in which single underscores may stand between
digits. -/
def digitRun? : List Char → Option (List Nat)
  | [] => none
  | [char] => (digitValue? char).map ([·])
  | char :: '_' :: rest => do
    let digit ← digitValue? char
    let others ← digitRun? rest
    pure (digit :: others)
  | char :: rest => do
    let digit ← digitValue? char
    let others ← digitRun? rest
    pure (digit :: others)

/-- Take a sign off the front. -/
def splitSign : List Char → Bool × List Char
  | '-' :: rest => (true, rest)
  | '+' :: rest => (false, rest)
  | chars => (false, chars)

/-- An exact integer as the sign and magnitude say. -/
def negateIf (negative : Bool) (magnitude : Nat) : Int :=
  if negative then -(magnitude : Int) else magnitude

/-- Whether a character may belong to a run of digits. -/
def inRun (char : Char) : Bool :=
  char = '_' || (digitValue? char).isSome

/-- Read an integer. -/
def readInteger (text : Text) : Except ReadFault Int :=
  let (negative, body) := splitSign (trimWhere isNumberBlank text.chars)
  match digitRun? (body.takeWhile inRun) with
  | none => .error (.notInteger text)
  | some digits =>
    if digitLimit < digits.length then
      .error (.tooManyDigits digits.length)
    else if body.all inRun then
      .ok (negateIf negative (ofDigits digits))
    else
      .error (.notInteger text)

/-- The double nearest to `± digits * 10 ^ scale`. -/
def ofDecimal
    (negative : Bool)
    (digits : List Nat)
    (scale : Int) : Float :=
  let significant := digits.dropWhile (· == 0)
  let place := (significant.length : Int) + scale
  let magnitude : Float :=
    if significant.isEmpty || place < -400 then
      0.0
    else if 400 < place then
      1.0 / 0.0
    else
      Float.ofScientific (ofDigits significant) (scale < 0) scale.natAbs
  if negative then -magnitude else magnitude

/-- The exponent part of a real, from the mark on; nothing means zero. -/
def exponentPart? : List Char → Option Int
  | [] => some 0
  | mark :: rest =>
    if mark = 'e' || mark = 'E' then
      let (negative, body) := splitSign rest
      (digitRun? body).map fun digits => negateIf negative (ofDigits digits)
    else
      none

/-- The digits before or after a point, where there may be none. -/
def optionalRun? (chars : List Char) : Option (List Nat) :=
  if chars.isEmpty then some [] else digitRun? chars

/-- Read the part of a real that follows the sign. -/
def readMagnitude? (negative : Bool) (chars : List Char) : Option Float := do
  let rest := chars.dropWhile inRun
  let whole ← optionalRun? (chars.takeWhile inRun)
  let (fraction, tail) ←
    match rest with
    | '.' :: rest => do
      let fraction ← optionalRun? (rest.takeWhile inRun)
      pure (fraction, rest.dropWhile inRun)
    | _ => pure ([], rest)
  let exponent ← exponentPart? tail
  if whole.isEmpty && fraction.isEmpty then
    none
  else
    pure (ofDecimal negative (whole ++ fraction) (exponent - fraction.length))

/-- Read a real. -/
def readReal (text : Text) : Except ReadFault Float :=
  let (negative, body) := splitSign (trimWhere isNumberBlank text.chars)
  let word := String.ofList (body.map Char.toLower)
  if word = "inf" || word = "infinity" then
    .ok (if negative then -1.0 / 0.0 else 1.0 / 0.0)
  else if word = "nan" then
    .ok (0.0 / 0.0)
  else
    match readMagnitude? negative body with
    | some value => .ok value
    | none => .error (.notReal text)

example : readInteger " -1_0 " = .ok (-10) := by cbv
example : readInteger "1__0" = .error (.notInteger "1__0") := by cbv

end RunnerFleet.Number
