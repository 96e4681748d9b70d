import RunnerFleet.Proofs.Numerals

/-!
# Written strings

Between its quotes a string is written point by point: as itself, by a letter after a backslash,
or by its code units.  It is read back the same way, except that a high surrogate and a low one
right after it become the character whose pair they are.
-/

namespace RunnerFleet

/-- The character whose pair a high surrogate and a low one are. -/
def CodePoint.joined? : CodePoint → CodePoint → Option CodePoint
  | .surrogate high, .surrogate low =>
    if high.val < 0x400 ∧ 0x400 ≤ low.val then
      some (Json.ofPair (0xD800 + high.val) (0xD800 + low.val))
    else
      none
  | _, _ => none

/-- A text in which surrogates that make a pair are joined, as they are when it is read. -/
def Text.paired : Text → Text
  | first :: second :: rest =>
    match first.joined? second with
    | some whole => whole :: Text.paired rest
    | none => first :: Text.paired (second :: rest)
  | text => text

namespace Json

/-! ## Hexadecimal digits -/

theorem hexDigit?_digitChar : ∀ digit < 16, hexDigit? (Nat.digitChar digit) = some digit := by
  decide

/-- The digits of a number, with zeros in front up to a width. -/
def hexDigits (width number : Nat) : List Char :=
  let digits := Nat.toDigits 16 number
  List.replicate (width - digits.length) '0' ++ digits

theorem hexDigits_one {number : Nat} (small : number < 16) :
    hexDigits 1 number = [Nat.digitChar number] := by
  rw [hexDigits, Nat.toDigits_of_lt_base small]
  rfl

/-- One more digit in front leaves the last one. -/
theorem hexDigits_succ {width : Nat} (wide : 0 < width) (number : Nat) :
    hexDigits (width + 1) number =
      hexDigits width (number / 16) ++ [Nat.digitChar (number % 16)] := by
  by_cases small : number < 16
  · obtain ⟨less, rfl⟩ : ∃ less, width = less + 1 := ⟨width - 1, by omega⟩
    have none : Nat.toDigits 16 0 = ['0'] := Nat.toDigits_zero 16
    rw [hexDigits, hexDigits, Nat.div_eq_of_lt small, Nat.mod_eq_of_lt small,
      Nat.toDigits_of_lt_base small, none]
    simp [List.replicate_succ']
  · rw [hexDigits, hexDigits, Nat.toDigits_of_base_le (by decide) (Nat.le_of_not_lt small)]
    simp

/-- A code unit is escaped by four digits that tell it. -/
theorem exists_hexUnit? {unit : Nat} (short : unit < 0x10000) :
    ∃ a b c d,
      Text.ofString (unitEscape unit) = [.scalar '\\', .scalar 'u', a, b, c, d] ∧
        hexUnit? a b c d = some unit := by
  have digits :
      hexDigits 4 unit =
        [Nat.digitChar (unit / 16 / 16 / 16), Nat.digitChar (unit / 16 / 16 % 16),
          Nat.digitChar (unit / 16 % 16), Nat.digitChar (unit % 16)] := by
    rw [hexDigits_succ (by decide), hexDigits_succ (by decide), hexDigits_succ (by decide),
      hexDigits_one (by omega)]
    rfl
  have text :
      Text.ofString (unitEscape unit) =
        .scalar '\\' :: .scalar 'u' :: (hexDigits 4 unit).map .scalar := by
    rw [unitEscape, Text.hexadecimal, Text.ofString_append]
    simp [Text.ofString, hexDigits]
  have first := hexDigit?_digitChar (unit / 16 / 16 / 16) (by omega)
  have second := hexDigit?_digitChar (unit / 16 / 16 % 16) (Nat.mod_lt _ (by decide))
  have third := hexDigit?_digitChar (unit / 16 % 16) (Nat.mod_lt _ (by decide))
  have fourth := hexDigit?_digitChar (unit % 16) (Nat.mod_lt _ (by decide))
  refine ⟨_, _, _, _, by rw [text, digits]; rfl, ?_⟩
  simp only [hexUnit?, CodePoint.char?, Option.bind_some, first, second, third, fourth, bind,
    pure, Option.some.injEq]
  omega

/-! ## Escapes -/

/-- How a code point is written between quotes. -/
inductive Escape : CodePoint → Text → Prop where
  | plain
      {char : Char}
      (visible : 0x1F < char.toNat)
      (unquoted : char ≠ '"')
      (unescaped : char ≠ '\\') :
      Escape (.scalar char) [.scalar char]
  | letter
      {letter char : Char}
      (known : simpleEscape? letter = some char) :
      Escape (.scalar char) [.scalar '\\', .scalar letter]
  | unit
      {a b c d : CodePoint}
      {unit : Nat}
      (digits : hexUnit? a b c d = some unit) :
      Escape (ofUnit unit) [.scalar '\\', .scalar 'u', a, b, c, d]
  | pair
      {a b c d e f g h : CodePoint}
      {high low : Nat}
      (highDigits : hexUnit? a b c d = some high)
      (lowDigits : hexUnit? e f g h = some low)
      (opens : isHighSurrogate high = true)
      (closes : isLowSurrogate low = true) :
      Escape (ofPair high low)
        [.scalar '\\', .scalar 'u', a, b, c, d, .scalar '\\', .scalar 'u', e, f, g, h]

/-- A character has no number of a surrogate, and none above the last plane. -/
theorem toNat_lt_or (char : Char) :
    char.toNat < 0xD800 ∨ 0xDFFF < char.toNat ∧ char.toNat < 0x110000 :=
  char.valid

theorem ofUnit_toNat (char : Char) : ofUnit char.toNat = .scalar char := by
  have range := toNat_lt_or char
  rw [ofUnit, dif_neg (by omega), Char.ofNat_toNat]

theorem ofUnit_code (index : Fin 2048) :
    ofUnit (CodePoint.surrogate index).code = .surrogate index := by
  have code : (CodePoint.surrogate index).code = 0xD800 + index.val := rfl
  rw [code, ofUnit, dif_pos (by omega)]
  simp only [Nat.add_sub_cancel_left]

theorem escape_unit {unit : Nat} (short : unit < 0x10000) :
    Escape (ofUnit unit) (Text.ofString (unitEscape unit)) := by
  rcases exists_hexUnit? short with ⟨a, b, c, d, text, digits⟩
  rw [text]
  exact .unit digits

theorem escape_pair {char : Char} (beyond : 0x10000 ≤ char.toNat) :
    Escape (.scalar char)
      (Text.ofString
        (unitEscape (0xD800 + (char.toNat - 0x10000) / 1024) ++
          unitEscape (0xDC00 + (char.toNat - 0x10000) % 1024))) := by
  have range := toNat_lt_or char
  have highShort : 0xD800 + (char.toNat - 0x10000) / 1024 < 0x10000 := by omega
  have lowShort : 0xDC00 + (char.toNat - 0x10000) % 1024 < 0x10000 := by omega
  rcases exists_hexUnit? highShort with ⟨a, b, c, d, high, highDigits⟩
  rcases exists_hexUnit? lowShort with ⟨e, f, g, h, low, lowDigits⟩
  have whole :
      ofPair (0xD800 + (char.toNat - 0x10000) / 1024) (0xDC00 + (char.toNat - 0x10000) % 1024) =
        .scalar char := by
    have number :
        0x10000 + (0xD800 + (char.toNat - 0x10000) / 1024 - 0xD800) * 1024 +
            (0xDC00 + (char.toNat - 0x10000) % 1024 - 0xDC00) = char.toNat := by
      omega
    rw [ofPair, number, Char.ofNat_toNat]
  rw [Text.ofString_append, high, low, ← whole]
  exact .pair highDigits lowDigits (by simp [isHighSurrogate]; omega)
    (by simp [isLowSurrogate]; omega)

theorem escape_escapedChar (char : Char) :
    Escape (.scalar char) (Text.ofString (escapedChar char)) := by
  simp only [escapedChar]
  split
  next quote =>
    subst quote
    exact .letter rfl
  next unquoted =>
    split
    next backslash =>
      subst backslash
      exact .letter rfl
    next unescaped =>
      split
      next lineFeed =>
        subst lineFeed
        exact .letter rfl
      · split
        next carriageReturn =>
          subst carriageReturn
          exact .letter rfl
        · split
          next tab =>
            subst tab
            exact .letter rfl
          · split
            next backspace =>
              subst backspace
              exact .letter rfl
            · split
              next formFeed =>
                subst formFeed
                exact .letter rfl
              · split
                next printable =>
                  rw [Bool.and_eq_true, decide_eq_true_iff] at printable
                  have alone : Text.ofString (String.singleton char) = [.scalar char] := by
                    simp [Text.ofString]
                  rw [alone]
                  exact .plain printable.1 unquoted unescaped
                · split
                  next short =>
                    rw [← ofUnit_toNat]
                    exact escape_unit short
                  next beyond => exact escape_pair (Nat.le_of_not_lt beyond)

theorem escape_escapedPoint (point : CodePoint) :
    Escape point (Text.ofString (escapedPoint point)) := by
  cases point with
  | scalar char => exact escape_escapedChar char
  | surrogate index =>
    have short : (CodePoint.surrogate index).code < 0x10000 := by
      have code : (CodePoint.surrogate index).code = 0xD800 + index.val := rfl
      omega
    have escape := escape_unit short
    rw [ofUnit_code] at escape
    exact escape

/-! ## Reading escapes -/

variable (opening offset : Nat) (rest : Text)

theorem stringFrom_plain
    {char : Char}
    (visible : 0x1F < char.toNat)
    (unquoted : char ≠ '"')
    (unescaped : char ≠ '\\') :
    stringFrom opening (.scalar char :: rest) offset =
      (stringFrom opening rest (offset + 1)).cons (.scalar char) := by
  rw [stringFrom]
  · have code : ¬ (CodePoint.scalar char).code ≤ 0x1F := Nat.not_le_of_gt visible
    rw [if_neg code]
  all_goals simp_all

theorem stringFrom_letter
    {letter char : Char}
    (known : simpleEscape? letter = some char) :
    stringFrom opening (.scalar '\\' :: .scalar letter :: rest) offset =
      (stringFrom opening rest (offset + 2)).cons (.scalar char) := by
  have other : letter ≠ 'u' := by
    rintro rfl
    cases known
  rw [stringFrom]
  · simp [other, CodePoint.char?, known]
  all_goals simp [other]

/-- If a text goes on with a code unit that more follows, the unit is no low surrogate. -/
def NoLowAhead (text : Text) : Prop :=
  ∀ e f g h next rest,
    text = .scalar '\\' :: .scalar 'u' :: e :: f :: g :: h :: next :: rest →
      ∃ unit, hexUnit? e f g h = some unit ∧ isLowSurrogate unit = false

theorem stringFrom_unit
    {a b c d next : CodePoint}
    {unit : Nat}
    (digits : hexUnit? a b c d = some unit)
    (apart : isHighSurrogate unit = true → NoLowAhead (next :: rest)) :
    stringFrom opening (.scalar '\\' :: .scalar 'u' :: a :: b :: c :: d :: next :: rest) offset =
      (stringFrom opening (next :: rest) (offset + 6)).cons (ofUnit unit) := by
  by_cases ahead :
      ∃ e f g h after more,
        next :: rest = .scalar '\\' :: .scalar 'u' :: e :: f :: g :: h :: after :: more
  · rcases ahead with ⟨e, f, g, h, after, more, equal⟩
    cases equal
    rw [stringFrom, digits]
    dsimp only
    split
    next high =>
      rcases apart high _ _ _ _ _ _ rfl with ⟨other, told, notLow⟩
      simp only [told, notLow, Bool.false_eq_true, if_false]
    · rfl
  · rw [stringFrom, digits]
    rintro e f g h after more rfl rfl
    exact ahead ⟨e, f, g, h, after, more, rfl⟩

theorem stringFrom_pair
    (next : CodePoint)
    {a b c d e f g h : CodePoint}
    {high low : Nat}
    (highDigits : hexUnit? a b c d = some high)
    (lowDigits : hexUnit? e f g h = some low)
    (opens : isHighSurrogate high = true)
    (closes : isLowSurrogate low = true) :
    stringFrom opening
        (.scalar '\\' :: .scalar 'u' :: a :: b :: c :: d
          :: .scalar '\\' :: .scalar 'u' :: e :: f :: g :: h :: next :: rest) offset =
      (stringFrom opening (next :: rest) (offset + 12)).cons (ofPair high low) := by
  rw [stringFrom]
  simp only [highDigits, lowDigits, opens, closes, if_true]

/-! ## Strings -/

/-- What stands between the quotes of a written string. -/
def escaped (text : Text) : Text :=
  text.flatMap fun point => escapedPoint point

theorem ofString_join (parts : List String) :
    Text.ofString (String.join parts) = parts.flatMap Text.ofString := by
  induction parts with
  | nil => rfl
  | cons part rest ih => rw [String.join_cons, Text.ofString_append, ih, List.flatMap_cons]

theorem ofString_writeText (text : Text) :
    Text.ofString (writeText text) = .scalar '"' :: (escaped text ++ [.scalar '"']) := by
  have quote : Text.ofString "\"" = [.scalar '"'] := rfl
  rw [writeText, Text.ofString_append, Text.ofString_append, ofString_join, quote,
    List.flatMap_map, List.singleton_append, List.cons_append]
  rfl

namespace Reading.Yields

theorem cons
    {reading : Reading Text}
    {text rest : Text}
    (yields : reading.Yields text rest)
    (point : CodePoint) :
    (reading.cons point).Yields (point :: text) rest := by
  rcases yields with ⟨offset, equal⟩
  rw [equal]
  exact ⟨offset, rfl⟩

end Reading.Yields

/-- The escape of a point that is not joined to the next one is read in front of it. -/
theorem stringFrom_escape
    {opening offset : Nat}
    {point next : CodePoint}
    {written tail text after : Text}
    (escape : Escape point written)
    (apart : ∀ unit, point = ofUnit unit → isHighSurrogate unit = true → NoLowAhead (next :: tail))
    (reads : ∀ offset, (stringFrom opening (next :: tail) offset).Yields text after) :
    (stringFrom opening (written ++ next :: tail) offset).Yields (point :: text) after := by
  cases escape with
  | plain visible unquoted unescaped =>
    rw [List.singleton_append, stringFrom_plain _ _ _ visible unquoted unescaped]
    exact (reads _).cons _
  | letter known =>
    have given := stringFrom_letter opening offset (next :: tail) known
    exact given ▸ (reads _).cons _
  | unit digits =>
    have given := stringFrom_unit opening offset tail digits (apart _ rfl)
    exact given ▸ (reads _).cons _
  | pair highDigits lowDigits opens closes =>
    have given :=
      stringFrom_pair opening offset tail next highDigits lowDigits opens closes
    exact given ▸ (reads _).cons _

theorem Escape.noLowAhead
    {point : CodePoint}
    {written : Text}
    (escape : Escape point written)
    (other : ∀ index : Fin 2048, point = .surrogate index → index.val < 0x400)
    (tail : Text) :
    NoLowAhead (written ++ tail) := by
  cases escape with
  | plain _ _ unescaped =>
    rintro e f g h next rest ⟨⟩
    exact absurd rfl unescaped
  | letter known =>
    rintro e f g h next rest ⟨⟩
    cases known
  | @unit a b c d unit digits =>
    rintro e f g h next rest ⟨⟩
    refine ⟨unit, digits, ?_⟩
    cases low : isLowSurrogate unit with
    | false => rfl
    | true =>
      simp only [isLowSurrogate, Bool.and_eq_true, decide_eq_true_iff] at low
      have small := other ⟨unit - 0xD800, by omega⟩ (by rw [ofUnit, dif_pos (by omega)])
      dsimp only at small
      omega
  | @pair _ _ _ _ _ _ _ _ high low highDigits _ opens _ =>
    rintro e f g h next rest ⟨⟩
    refine ⟨high, highDigits, ?_⟩
    simp only [isHighSurrogate, Bool.and_eq_true, decide_eq_true_iff] at opens
    simp only [isLowSurrogate, Bool.and_eq_false_iff, decide_eq_false_iff_not]
    omega

theorem joined?_eq_none
    {unit : Nat}
    {next : CodePoint}
    (apart : (ofUnit unit).joined? next = none)
    (high : isHighSurrogate unit = true) :
    ∀ index : Fin 2048, next = .surrogate index → index.val < 0x400 := by
  rintro index rfl
  simp only [isHighSurrogate, Bool.and_eq_true, decide_eq_true_iff] at high
  rw [ofUnit, dif_pos (by omega)] at apart
  simp only [CodePoint.joined?] at apart
  split at apart
  · cases apart
  · omega

theorem joined?_eq_some
    {first second whole : CodePoint}
    (pair : first.joined? second = some whole) :
    ∃ high low : Nat,
      isHighSurrogate high = true ∧
        isLowSurrogate low = true ∧
          whole = ofPair high low ∧
            escapedPoint first = unitEscape high ∧ escapedPoint second = unitEscape low := by
  cases first with
  | scalar char => cases pair
  | surrogate high =>
    cases second with
    | scalar char => cases pair
    | surrogate low =>
      simp only [CodePoint.joined?] at pair
      split at pair
      next both =>
        cases pair
        exact ⟨0xD800 + high.val, 0xD800 + low.val, by simp [isHighSurrogate]; omega,
          by simp [isLowSurrogate]; omega, rfl, rfl, rfl⟩
      · cases pair

/-- A written string reads back as its text, with the surrogates joined that make a pair. -/
theorem stringFrom_escaped (text after : Text) (opening offset : Nat) :
    (stringFrom opening (escaped text ++ .scalar '"' :: after) offset).Yields text.paired
      after := by
  have goesOn (text : Text) :
      ∃ next tail, escaped text ++ .scalar '"' :: after = next :: tail := by
    cases escaped text with
    | nil => exact ⟨_, _, rfl⟩
    | cons next more => exact ⟨_, _, rfl⟩
  have opened (point : CodePoint) (rest : Text) :
      escaped (point :: rest) ++ .scalar '"' :: after =
        Text.ofString (escapedPoint point) ++ (escaped rest ++ .scalar '"' :: after) := by
    rw [escaped, List.flatMap_cons, List.append_assoc]
    rfl
  have closed (offset : Nat) :
      (stringFrom opening (.scalar '"' :: after) offset).Yields [] after := by
    rw [stringFrom]
    exact ⟨_, rfl⟩
  induction text using Text.paired.induct generalizing offset with
  | case1 first second rest whole pair ih =>
    rcases joined?_eq_some pair with ⟨high, low, opens, closes, rfl, firstText, secondText⟩
    have range : high < 0x10000 ∧ low < 0x10000 := by
      simp only [isHighSurrogate, isLowSurrogate, Bool.and_eq_true, decide_eq_true_iff]
        at opens closes
      omega
    rcases exists_hexUnit? range.1 with ⟨a, b, c, d, highText, highDigits⟩
    rcases exists_hexUnit? range.2 with ⟨e, f, g, h, lowText, lowDigits⟩
    rcases goesOn rest with ⟨next, tail, more⟩
    rw [Text.paired, pair, opened, opened, firstText, secondText, highText, lowText]
    rw [more] at ih ⊢
    have reads :=
      stringFrom_pair opening offset tail next highDigits lowDigits opens closes
    exact reads ▸ (ih _).cons _
  | case2 first second rest apart ih =>
    rcases goesOn (second :: rest) with ⟨next, tail, more⟩
    rw [Text.paired, apart, opened, more]
    rw [more] at ih
    -- A high surrogate is read on with the next escape, which must not be a low one here.
    refine stringFrom_escape (escape_escapedPoint first) ?_ ih
    rintro unit rfl high
    rw [← more, opened]
    exact (escape_escapedPoint second).noLowAhead (joined?_eq_none apart high) _
  | case3 text short =>
    cases text with
    | nil => exact closed offset
    | cons point rest =>
      cases rest with
      | cons second more => exact absurd rfl (short _ _ _)
      | nil =>
        rw [opened]
        refine stringFrom_escape (escape_escapedPoint point) ?_ closed
        rintro _ _ _ _ _ _ _ _ _ ⟨⟩

end Json

end RunnerFleet
