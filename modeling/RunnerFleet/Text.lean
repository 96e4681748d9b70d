/-!
# Texts

A string of JSON may spell any unit of UTF-16, so it may hold a surrogate that
lacks its partner, which no Unicode string can.  A text is therefore a list of
code points: whatever the service reads, compares and passes on stays as it was
spelled.

Every string is a text, and a text without surrogates is a string.
-/

namespace RunnerFleet

/-- A code point: a scalar value, which is a character, or a surrogate, which is
given by its place among the 2048 surrogates. -/
inductive CodePoint where
  | scalar (char : Char)
  | surrogate (index : Fin 2048)
  deriving DecidableEq, Repr

namespace CodePoint

/-- The number of a code point. -/
def code : CodePoint → Nat
  | .scalar char => char.toNat
  | .surrogate index => 0xD800 + index.val

/-- The character that a code point is, if it is one. -/
def char? : CodePoint → Option Char
  | .scalar char => some char
  | .surrogate _ => none

/-- Whether a code point is a character of a class. -/
def isIn (charClass : Char → Bool) : CodePoint → Bool
  | .scalar char => charClass char
  | .surrogate _ => false

end CodePoint

/-- A text, code point by code point. -/
abbrev Text := List CodePoint

namespace Text

/-- The text of a string. -/
def ofString (content : String) : Text :=
  content.toList.map .scalar

instance : Coe String Text :=
  ⟨ofString⟩

/-- The string that a text is, if it holds no surrogate. -/
def toString? (text : Text) : Option String :=
  (text.mapM CodePoint.char?).map String.ofList

/-- The characters of a text, where the replacement character stands for a
surrogate. -/
def chars (text : Text) : List Char :=
  text.map fun point => point.char?.getD '\uFFFD'

/-- A text as a string can show it. -/
def shown (text : Text) : String :=
  String.ofList text.chars

/-- Texts with a separator between them. -/
def joined (separator : Text) (parts : List Text) : Text :=
  separator.intercalate parts

@[simp]
theorem ofString_append (first second : String) :
    ofString (first ++ second) = ofString first ++ ofString second := by
  simp [ofString]

@[simp]
theorem toString?_ofString (content : String) :
    (ofString content).toString? = some content := by
  have chars : ∀ list : List Char,
      (list.map CodePoint.scalar).mapM CodePoint.char? = some list := by
    intro list
    induction list with
    | nil => rfl
    | cons first rest ih => simp [List.mapM_cons, CodePoint.char?, ih]
  simp [toString?, ofString, chars]

/-- Different strings are different texts. -/
theorem ofString_injective {first second : String}
    (equal : ofString first = ofString second) :
    first = second := by
  have shown := congrArg toString? equal
  simpa using shown

example : ofString "aé" = [.scalar 'a', .scalar 'é'] := by decide

end Text

end RunnerFleet
