import RunnerFleet.Number.Reading
import RunnerFleet.Table
import RunnerFleet.Value

/-!
# Reading JSON

The reader accepts JSON with the three words `NaN`, `Infinity` and `-Infinity`
as numbers.  A number without fraction and exponent is an integer of any size
up to the digit limit; every other number is the nearest double.  Of fields
with one name the last value counts, at the place of the first.  Lists and
objects may be nested up to a limit.

A refused text is reported with the first offset at which it cannot be
continued.  For a string that offset may be its opening quote, or a place
inside an escape.
-/

namespace RunnerFleet.Json

open RunnerFleet.Number (digitLimit ofDigits ofDecimal negateIf)

/-! ## Problems -/

/-- What is wrong with a text that is no JSON. -/
inductive Problem where
  | expectingValue
  | expectingName
  | expectingColon
  | expectingComma
  | unterminatedString
  | controlCharacter
  | invalidEscape
  | invalidUnicodeEscape
  | extraData
  | byteOrderMark
  deriving DecidableEq, Repr

/-- The words for a problem. -/
def Problem.message : Problem → String
  | .expectingValue => "Expecting value"
  | .expectingName => "Expecting property name enclosed in double quotes"
  | .expectingColon => "Expecting ':' delimiter"
  | .expectingComma => "Expecting ',' delimiter"
  | .unterminatedString => "Unterminated string starting at"
  | .controlCharacter => "Invalid control character at"
  | .invalidEscape => "Invalid \\escape"
  | .invalidUnicodeEscape => "Invalid \\uXXXX escape"
  | .extraData => "Extra data"
  | .byteOrderMark => "Unexpected UTF-8 BOM (decode using utf-8-sig)"

/-- What holds other values. -/
inductive Nest where
  | list
  | object
  deriving DecidableEq, Repr

/-- The words for a nest. -/
def Nest.word : Nest → String
  | .list => "array"
  | .object => "object"

/-- Why reading stopped: a problem at an offset, an integer that is too long, or
a list or an object that is nested too deep. -/
inductive Stop where
  | problem (what : Problem) (offset : Nat)
  | tooManyDigits (count : Nat)
  | tooDeep (nest : Nest)
  deriving DecidableEq, Repr

/-! ## Cursors -/

/-- What is left to read, and how many code points were read before it. -/
structure Cursor where
  rest : Text
  offset : Nat
  deriving DecidableEq, Repr

/-- The outcome of reading something from a cursor on. -/
abbrev Reading (Item : Type) := Except Stop (Item × Cursor)

/-- Refuse what stands at an offset. -/
def refuse {Item : Type} (what : Problem) (offset : Nat) : Reading Item :=
  .error (.problem what offset)

/-- Whether a character may stand between tokens. -/
def isSpace (char : Char) : Bool :=
  char = ' ' || char = '\t' || char = '\n' || char = '\r'

/-- Step over the spaces at an offset. -/
def skipSpaces : Text → Nat → Cursor
  | [], offset => ⟨[], offset⟩
  | point :: rest, offset =>
    if point.isIn isSpace then skipSpaces rest (offset + 1) else ⟨point :: rest, offset⟩

/-- Step over the spaces at a cursor. -/
def Cursor.skip (cursor : Cursor) : Cursor :=
  skipSpaces cursor.rest cursor.offset

/-- Step over a number of code points. -/
def Cursor.advance (cursor : Cursor) (count : Nat) : Cursor :=
  ⟨cursor.rest.drop count, cursor.offset + count⟩

/-! ## Strings -/

/-- The value of a hexadecimal digit. -/
def hexDigit? (char : Char) : Option Nat :=
  if '0' ≤ char && char ≤ '9' then some (char.toNat - 48)
  else if 'a' ≤ char && char ≤ 'f' then some (char.toNat - 87)
  else if 'A' ≤ char && char ≤ 'F' then some (char.toNat - 55)
  else none

/-- The number that four hexadecimal digits denote. -/
def hexUnit? (first second third fourth : CodePoint) : Option Nat := do
  let a ← first.char?.bind hexDigit?
  let b ← second.char?.bind hexDigit?
  let c ← third.char?.bind hexDigit?
  let d ← fourth.char?.bind hexDigit?
  pure (((a * 16 + b) * 16 + c) * 16 + d)

/-- Whether a code unit opens a surrogate pair. -/
def isHighSurrogate (unit : Nat) : Bool :=
  0xD800 ≤ unit && unit < 0xDC00

/-- Whether a code unit closes a surrogate pair. -/
def isLowSurrogate (unit : Nat) : Bool :=
  0xDC00 ≤ unit && unit < 0xE000

/-- The code point of a code unit that stands for itself. -/
def ofUnit (unit : Nat) : CodePoint :=
  if surrogate : 0xD800 ≤ unit ∧ unit < 0xE000 then
    .surrogate ⟨unit - 0xD800, by omega⟩
  else
    .scalar (Char.ofNat unit)

/-- The code point of a surrogate pair. -/
def ofPair (high low : Nat) : CodePoint :=
  .scalar (Char.ofNat (0x10000 + (high - 0xD800) * 1024 + (low - 0xDC00)))

/-- The character that an escape of one letter stands for. -/
def simpleEscape? : Char → Option Char
  | '"' => some '"'
  | '\\' => some '\\'
  | '/' => some '/'
  | 'b' => some '\x08'
  | 'f' => some '\x0c'
  | 'n' => some '\n'
  | 'r' => some '\r'
  | 't' => some '\t'
  | _ => none

/-- Put a code point in front of what a string continues with. -/
def Reading.cons (point : CodePoint) (reading : Reading Text) : Reading Text :=
  match reading with
  | .ok (text, cursor) => .ok (point :: text, cursor)
  | .error stop => .error stop

/-- Read a string whose opening quote stands at the given place, from an offset
inside it on.  A code-unit escape needs a character after its four digits, and
a second one is only joined to the first if a character follows it too.  A
surrogate that stands in the text itself is passed on and never joined. -/
def stringFrom (opening : Nat) : Text → Nat → Reading Text
  | [], _ => refuse .unterminatedString opening
  | .scalar '"' :: rest, offset => .ok ([], ⟨rest, offset + 1⟩)
  | [.scalar '\\'], _ => refuse .unterminatedString opening
  | .scalar '\\' :: .scalar 'u' :: a :: b :: c :: d
      :: .scalar '\\' :: .scalar 'u' :: e :: f :: g :: h :: next :: rest, offset =>
    match hexUnit? a b c d with
    | none => refuse .invalidUnicodeEscape (offset + 1)
    | some high =>
      if isHighSurrogate high then
        match hexUnit? e f g h with
        | none => refuse .invalidUnicodeEscape (offset + 7)
        | some low =>
          if isLowSurrogate low then
            (stringFrom opening (next :: rest) (offset + 12)).cons (ofPair high low)
          else
            (stringFrom opening
              (.scalar '\\' :: .scalar 'u' :: e :: f :: g :: h :: next :: rest)
              (offset + 6)).cons (ofUnit high)
      else
        (stringFrom opening
          (.scalar '\\' :: .scalar 'u' :: e :: f :: g :: h :: next :: rest)
          (offset + 6)).cons (ofUnit high)
  | .scalar '\\' :: .scalar 'u' :: a :: b :: c :: d :: next :: rest, offset =>
    match hexUnit? a b c d with
    | none => refuse .invalidUnicodeEscape (offset + 1)
    | some unit => (stringFrom opening (next :: rest) (offset + 6)).cons (ofUnit unit)
  | .scalar '\\' :: letter :: rest, offset =>
    if letter = .scalar 'u' then
      refuse .invalidUnicodeEscape (offset + 1)
    else
      match letter.char?.bind simpleEscape? with
      | some char => (stringFrom opening rest (offset + 2)).cons (.scalar char)
      | none => refuse .invalidEscape offset
  | point :: rest, offset =>
    if point.code ≤ 0x1F then
      refuse .controlCharacter offset
    else
      (stringFrom opening rest (offset + 1)).cons point

/-! ## Numbers -/

/-- The value of an ASCII digit. -/
def decimalDigit? (char : Char) : Option Nat :=
  if '0' ≤ char && char ≤ '9' then some (char.toNat - 48) else none

/-- The digits at the front of a text. -/
def leadingDigits : Text → List Nat
  | [] => []
  | point :: rest =>
    match point.char?.bind decimalDigit? with
    | some digit => digit :: leadingDigits rest
    | none => []

/-- The whole part of a number: a lone zero, or digits that do not start with
one. -/
def wholePart (text : Text) : List Nat :=
  match leadingDigits text with
  | 0 :: _ => [0]
  | digits => digits

/-- The digits after a point; a point without any is not part of the number. -/
def fractionPart : Text → List Nat
  | .scalar '.' :: rest => leadingDigits rest
  | _ => []

/-- Take the sign of an exponent off the front. -/
def splitSign : Text → Bool × Text
  | .scalar '-' :: rest => (true, rest)
  | .scalar '+' :: rest => (false, rest)
  | text => (false, text)

/-- The exponent of a number with the count of its characters; a mark without
digits is not part of the number. -/
def exponentPart? : Text → Option (Int × Nat)
  | mark :: rest =>
    if mark = .scalar 'e' || mark = .scalar 'E' then
      let (negative, body) := splitSign rest
      match leadingDigits body with
      | [] => none
      | digits =>
        some
          (negateIf negative (ofDigits digits),
            1 + (rest.length - body.length) + digits.length)
    else
      none
  | [] => none

/-- Read a number whose sign and whole part are known. -/
def numberFrom
    (negative : Bool)
    (whole : List Nat)
    (cursor : Cursor) : Reading Value :=
  let cursor := cursor.advance whole.length
  let fraction := fractionPart cursor.rest
  let cursor := if fraction.isEmpty then cursor else cursor.advance (fraction.length + 1)
  match exponentPart? cursor.rest with
  | some (exponent, count) =>
    .ok
      (.real (ofDecimal negative (whole ++ fraction) (exponent - fraction.length)),
        cursor.advance count)
  | none =>
    if fraction.isEmpty then
      if digitLimit < whole.length then
        .error (.tooManyDigits whole.length)
      else
        .ok (.int (negateIf negative (ofDigits whole)), cursor)
    else
      .ok (.real (ofDecimal negative (whole ++ fraction) (-fraction.length)), cursor)

/-- Read a number, which may start with a minus sign. -/
def number (cursor : Cursor) : Reading Value :=
  match cursor.rest with
  | .scalar '-' :: rest =>
    match wholePart rest with
    | [] => refuse .expectingValue cursor.offset
    | whole => numberFrom true whole (cursor.advance 1)
  | text =>
    match wholePart text with
    | [] => refuse .expectingValue cursor.offset
    | whole => numberFrom false whole cursor

/-! ## Values -/

/-- The words that stand for values. -/
def words : List (Text × Value) :=
  [("null", .null), ("true", .bool true), ("false", .bool false),
    ("NaN", .real (0.0 / 0.0)), ("Infinity", .real (1.0 / 0.0)),
    ("-Infinity", .real (-1.0 / 0.0))]

/-- Read a word or a number. -/
def scalar (cursor : Cursor) : Reading Value :=
  match words.find? fun word => word.1.isPrefixOf cursor.rest with
  | some (word, value) => .ok (value, cursor.advance word.length)
  | none => number cursor

mutual

/-- Read a value in which lists and objects may be nested to the given number of
levels.  The bound is never reached if it exceeds twice the number of code points
left. -/
def valueFrom : Nat → Nat → Cursor → Reading Value
  | 0, _, cursor => refuse .expectingValue cursor.offset
  | bound + 1, levels, cursor =>
    match cursor.rest, levels with
    | .scalar '"' :: rest, _ =>
      match stringFrom cursor.offset rest (cursor.offset + 1) with
      | .ok (text, cursor) => .ok (.text text, cursor)
      | .error stop => .error stop
    | .scalar '[' :: _, 0 => .error (.tooDeep .list)
    | .scalar '[' :: rest, levels + 1 =>
      let inside := skipSpaces rest (cursor.offset + 1)
      match inside.rest with
      | .scalar ']' :: rest => .ok (.list [], ⟨rest, inside.offset + 1⟩)
      | _ =>
        match itemsFrom bound levels inside with
        | .ok (items, cursor) => .ok (.list items, cursor)
        | .error stop => .error stop
    | .scalar '\x7b' :: _, 0 => .error (.tooDeep .object)
    | .scalar '\x7b' :: rest, levels + 1 =>
      let inside := skipSpaces rest (cursor.offset + 1)
      match inside.rest with
      | .scalar '\x7d' :: rest => .ok (.object [], ⟨rest, inside.offset + 1⟩)
      | _ =>
        match fieldsFrom bound levels inside with
        | .ok (fields, cursor) => .ok (.object (Table.ofPairs fields), cursor)
        | .error stop => .error stop
    | _, _ => scalar cursor

/-- Read the items of a list up to its closing bracket. -/
def itemsFrom : Nat → Nat → Cursor → Reading (List Value)
  | 0, _, cursor => refuse .expectingValue cursor.offset
  | bound + 1, levels, cursor =>
    match valueFrom bound levels cursor with
    | .error stop => .error stop
    | .ok (item, cursor) =>
      let after := cursor.skip
      match after.rest with
      | .scalar ']' :: rest => .ok ([item], ⟨rest, after.offset + 1⟩)
      | .scalar ',' :: rest =>
        match itemsFrom bound levels (skipSpaces rest (after.offset + 1)) with
        | .ok (items, cursor) => .ok (item :: items, cursor)
        | .error stop => .error stop
      | _ => refuse .expectingComma after.offset

/-- Read the fields of an object up to its closing brace. -/
def fieldsFrom : Nat → Nat → Cursor → Reading (List (Text × Value))
  | 0, _, cursor => refuse .expectingName cursor.offset
  | bound + 1, levels, cursor =>
    match cursor.rest with
    | .scalar '"' :: rest =>
      match stringFrom cursor.offset rest (cursor.offset + 1) with
      | .error stop => .error stop
      | .ok (name, cursor) =>
        let colon := cursor.skip
        match colon.rest with
        | .scalar ':' :: rest =>
          match valueFrom bound levels (skipSpaces rest (colon.offset + 1)) with
          | .error stop => .error stop
          | .ok (value, cursor) =>
            let field := (name, value)
            let after := cursor.skip
            match after.rest with
            | .scalar '\x7d' :: rest => .ok ([field], ⟨rest, after.offset + 1⟩)
            | .scalar ',' :: rest =>
              match fieldsFrom bound levels (skipSpaces rest (after.offset + 1)) with
              | .ok (fields, cursor) => .ok (field :: fields, cursor)
              | .error stop => .error stop
            | _ => refuse .expectingComma after.offset
        | _ => refuse .expectingColon colon.offset
    | _ => refuse .expectingName cursor.offset

end

/-- Read a text that holds one value and nothing else, in which lists and objects may be
nested to the given number of levels. -/
def readWhole (nesting : Nat) (text : Text) : Except Stop Value :=
  match text with
  | .scalar '\uFEFF' :: _ => .error (.problem .byteOrderMark 0)
  | _ =>
    match valueFrom (2 * text.length + 2) nesting (skipSpaces text 0) with
    | .error stop => .error stop
    | .ok (value, cursor) =>
      let after := cursor.skip
      if after.rest.isEmpty then .ok value
      else .error (.problem .extraData after.offset)

/-! ## Reports -/

/-- A refused text, with the place of the problem in lines and columns that
count from one. -/
inductive Fault where
  | problem (what : Problem) (line column offset : Nat)
  | tooManyDigits (count : Nat)
  | tooDeep (nest : Nest)
  deriving DecidableEq, Repr

/-- The report of a refused text. -/
def Fault.message : Fault → String
  | .problem what line column offset =>
    what.message ++ ": line " ++ toString line ++ " column " ++ toString column
      ++ " (char " ++ toString offset ++ ")"
  | .tooManyDigits count => (Number.ReadFault.tooManyDigits count).message
  | .tooDeep nest =>
    "maximum recursion depth exceeded while decoding a JSON " ++ nest.word
      ++ " from a unicode string"

/-- Place a stop within the text it occurred in. -/
def Stop.locate (text : Text) : Stop → Fault
  | .problem what offset =>
    let before := text.take offset
    let column := (before.reverse.takeWhile (· != .scalar '\n')).length + 1
    .problem what (before.count (.scalar '\n') + 1) column offset
  | .tooManyDigits count => .tooManyDigits count
  | .tooDeep nest => .tooDeep nest

/-- Read a JSON text in which lists and objects may be nested to the given number of
levels. -/
def read (nesting : Nat) (text : Text) : Except Fault Value :=
  match readWhole nesting text with
  | .ok value => .ok value
  | .error stop => .error (stop.locate text)

end RunnerFleet.Json
