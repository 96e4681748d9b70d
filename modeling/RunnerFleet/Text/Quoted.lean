import RunnerFleet.Text
import RunnerFleet.Text.Printable

/-!
# Quoted texts

Messages show a text between quotes.  Single quotes are used unless the text
holds a single quote and no double quote.  The backslash and the chosen quote
are escaped, line feed, carriage return and tab have escapes of their own, and
every other code point that is not a printable character is written by its
number with two, four or eight hexadecimal digits.  So a quoted text holds no
surrogate, and is a string.
-/

namespace RunnerFleet.Text

/-- A number in lower-case hexadecimal, padded with zeros to a width. -/
def hexadecimal (width code : Nat) : String :=
  let digits := Nat.toDigits 16 code
  String.ofList (List.replicate (width - digits.length) '0' ++ digits)

/-- One character as it stands between the given quotes. -/
def quotedChar (quote char : Char) : String :=
  if char = quote || char = '\\' then
    String.ofList ['\\', char]
  else if char = '\n' then
    "\\n"
  else if char = '\r' then
    "\\r"
  else if char = '\t' then
    "\\t"
  else if isPrintable char then
    String.singleton char
  else if char.toNat < 0x100 then
    "\\x" ++ hexadecimal 2 char.toNat
  else if char.toNat < 0x10000 then
    "\\u" ++ hexadecimal 4 char.toNat
  else
    "\\U" ++ hexadecimal 8 char.toNat

/-- One code point as it stands between the given quotes. -/
def quotedPoint (quote : Char) : CodePoint → String
  | .scalar char => quotedChar quote char
  | point => "\\u" ++ hexadecimal 4 point.code

/-- The quote that surrounds a text. -/
def quoteFor (text : Text) : Char :=
  if text.contains (.scalar '\'') && !text.contains (.scalar '"') then '"' else '\''

/-- A text between quotes. -/
def quoted (text : Text) : String :=
  let quote := quoteFor text
  String.singleton quote
    ++ String.join (text.map (quotedPoint quote))
    ++ String.singleton quote

example : quoted "it's" = "\"it's\"" := by decide +kernel
example : quoted "a\nb" = "'a\\nb'" := by decide +kernel
example : quoted [.surrogate 1] = "'\\ud801'" := by decide +kernel

end RunnerFleet.Text
