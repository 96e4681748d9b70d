import RunnerFleet.Proofs.Digits

/-!
# Written numbers

A written number is a sign, digits, perhaps a point with more digits, and perhaps an exponent.
In front of a comma, a line feed, or the end of the text it is read in full, whatever follows.
An integer with few enough digits reads back as itself.
-/

namespace RunnerFleet

/-! ## Digits -/

/-- The values of characters that are digits. -/
def Number.digitValues (chars : List Char) : List Nat :=
  chars.map fun char => char.toNat - 48

/-- The digits of a number, the leading one first. -/
def Number.decimals (number : Nat) : List Nat :=
  Number.digitValues (Nat.toDigits 10 number)

namespace Json

open Number (digitValues decimals ofDigits ofDecimal negateIf)

theorem decimalDigit?_of_isDigit {char : Char} (digit : char.isDigit = true) :
    decimalDigit? char = some (char.toNat - 48) := by
  rw [Char.isDigit, Bool.and_eq_true, decide_eq_true_iff, decide_eq_true_iff] at digit
  rw [decimalDigit?, if_pos]
  rw [Bool.and_eq_true, decide_eq_true_iff, decide_eq_true_iff]
  exact digit

theorem ofDigits_decimals (number : Nat) : ofDigits (decimals number) = number := by
  have read : Nat.ofDigitChars 10 (Nat.toDigits 10 number) 0 = number :=
    Nat.ofDigitChars_ten_toDigits
  rw [Nat.ofDigitChars_eq_foldl] at read
  rw [decimals, digitValues, ofDigits, List.foldl_map]
  exact read

/-- The digits of a number other than zero do not start with a zero. -/
theorem toDigits_ne_zero_cons
    {number : Nat}
    (positive : 0 < number)
    (rest : List Char) :
    Nat.toDigits 10 number ≠ '0' :: rest := by
  induction number using Nat.strongRecOn generalizing rest with
  | _ number ih =>
    by_cases small : number < 10
    · have digits : ∀ digit < 10, 0 < digit → Nat.digitChar digit ≠ '0' := by decide
      rw [Nat.toDigits_of_lt_base small]
      intro equal
      exact digits number small positive (List.cons.inj equal).1
    · have shorter := ih (number / 10) (Nat.div_lt_self positive (by decide)) (by omega)
      rw [Nat.toDigits_of_base_le (by decide) (Nat.le_of_not_lt small)]
      cases digits : Nat.toDigits 10 (number / 10) with
      | nil => exact absurd digits Nat.toDigits_ne_nil
      | cons first others =>
        rw [digits] at shorter
        intro equal
        exact shorter others ((List.cons.inj equal).1 ▸ rfl)

/-- What may follow a written value: a comma, a line feed, or nothing. -/
def Closes (rest : Text) : Prop :=
  ∀ point ∈ rest.head?, point = .scalar ',' ∨ point = .scalar '\n'

theorem leadingDigits_append
    {chars : List Char}
    (digits : ∀ char ∈ chars, char.isDigit = true)
    (rest : Text) :
    leadingDigits (chars.map .scalar ++ rest) = digitValues chars ++ leadingDigits rest := by
  induction chars with
  | nil => rfl
  | cons char others ih =>
    rw [List.forall_mem_cons] at digits
    rcases digits with ⟨first, later⟩
    have value : (CodePoint.scalar char).char?.bind decimalDigit? = some (char.toNat - 48) :=
      decimalDigit?_of_isDigit first
    rw [List.map_cons, List.cons_append, leadingDigits, value]
    dsimp only
    rw [ih later]
    rfl

theorem Closes.leadingDigits {rest : Text} (closes : Closes rest) : leadingDigits rest = [] := by
  cases rest with
  | nil => rfl
  | cons point more =>
    rcases closes point rfl with rfl | rfl
    · rfl
    · rfl

/-! ## Parts of a written number -/

/-- A reading yields an item and leaves a text. -/
def Reading.Yields {Item : Type} (reading : Reading Item) (item : Item) (rest : Text) : Prop :=
  ∃ offset, reading = .ok (item, ⟨rest, offset⟩)

/-- The digits after the point, with the point in front; no digits have no point. -/
def fractionChars (fraction : List Char) : List Char :=
  if fraction.isEmpty then [] else '.' :: fraction

/-- An exponent, if there is one, with its mark and sign in front. -/
def exponentChars : Option (Bool × List Char) → List Char
  | none => []
  | some (negative, digits) => 'e' :: (if negative then '-' else '+') :: digits

/-- The parts of a written number without its sign. -/
structure Decimal where
  whole : List Char
  fraction : List Char
  exponent? : Option (Bool × List Char)

namespace Decimal

/-- The characters of a written number without its sign. -/
def chars (decimal : Decimal) : List Char :=
  decimal.whole ++ (fractionChars decimal.fraction ++ exponentChars decimal.exponent?)

/-- A written number has digits everywhere, some of them in the whole part, which starts with a
zero only if it is one. -/
structure IsProper (decimal : Decimal) : Prop where
  whole : ∀ char ∈ decimal.whole, char.isDigit = true
  fraction : ∀ char ∈ decimal.fraction, char.isDigit = true
  exponent :
    ∀ negative digits, decimal.exponent? = some (negative, digits) →
      digits ≠ [] ∧ ∀ char ∈ digits, char.isDigit = true
  leading : decimal.whole = ['0'] ∨ ∃ first rest, decimal.whole = first :: rest ∧ first ≠ '0'

/-- A written number with a fraction or an exponent is a real, and every other one is an
integer. -/
def value (negative : Bool) (decimal : Decimal) : Value :=
  let digits := digitValues (decimal.whole ++ decimal.fraction)
  match decimal.exponent? with
  | some (below, exponent) =>
    .real (ofDecimal negative digits
      (negateIf below (ofDigits (digitValues exponent)) - decimal.fraction.length))
  | none =>
    if decimal.fraction.isEmpty then .int (negateIf negative (ofDigits (digitValues decimal.whole)))
    else .real (ofDecimal negative digits (-decimal.fraction.length))

end Decimal

theorem length_digitValues (chars : List Char) : (digitValues chars).length = chars.length :=
  List.length_map _

theorem digitValues_append (first second : List Char) :
    digitValues (first ++ second) = digitValues first ++ digitValues second :=
  List.map_append

section

variable {rest : Text} (closes : Closes rest)

include closes

theorem exponentPart?_exponentChars
    {exponent? : Option (Bool × List Char)}
    (proper :
      ∀ negative digits, exponent? = some (negative, digits) →
        digits ≠ [] ∧ ∀ char ∈ digits, char.isDigit = true) :
    exponentPart? ((exponentChars exponent?).map .scalar ++ rest) =
      exponent?.map fun exponent =>
        (negateIf exponent.1 (ofDigits (digitValues exponent.2)), exponent.2.length + 2) := by
  cases exponent? with
  | none =>
    cases rest with
    | nil => rfl
    | cons point more =>
      rcases closes point rfl with rfl | rfl
      · rfl
      · rfl
  | some exponent =>
    rcases exponent with ⟨negative, digits⟩
    rcases proper negative digits rfl with ⟨given, decimal⟩
    have signed :
        splitSign ((if negative then CodePoint.scalar '-' else .scalar '+') ::
          (digits.map .scalar ++ rest)) = (negative, digits.map .scalar ++ rest) := by
      cases negative with
      | true => rfl
      | false => rfl
    have chars :
        (exponentChars (some (negative, digits))).map CodePoint.scalar ++ rest =
          .scalar 'e' :: (if negative then CodePoint.scalar '-' else .scalar '+') ::
            (digits.map .scalar ++ rest) := by
      cases negative with
      | true => rfl
      | false => rfl
    rw [chars, exponentPart?]
    simp only [decide_true, Bool.true_or, if_true, signed]
    rw [leadingDigits_append decimal, closes.leadingDigits, List.append_nil]
    cases digits with
    | nil => exact absurd rfl given
    | cons first others =>
      simp only [digitValues, List.map_cons, List.length_cons, List.length_append,
        List.length_map, Option.map_some]
      congr 2
      omega

theorem fractionPart_fractionChars
    {fraction : List Char}
    (digits : ∀ char ∈ fraction, char.isDigit = true)
    (exponent? : Option (Bool × List Char)) :
    fractionPart ((fractionChars fraction ++ exponentChars exponent?).map .scalar ++ rest) =
      digitValues fraction := by
  have after : leadingDigits ((exponentChars exponent?).map .scalar ++ rest) = [] := by
    cases exponent? with
    | none => exact closes.leadingDigits
    | some exponent => rfl
  cases fraction with
  | nil =>
    cases exponent? with
    | some exponent => rfl
    | none =>
      cases rest with
      | nil => rfl
      | cons point more =>
        rcases closes point rfl with rfl | rfl
        · rfl
        · rfl
  | cons first others =>
    have chars :
        (fractionChars (first :: others) ++ exponentChars exponent?).map CodePoint.scalar ++
            rest =
          .scalar '.' ::
            ((first :: others).map .scalar ++
              ((exponentChars exponent?).map .scalar ++ rest)) := by
      simp [fractionChars]
    rw [chars, fractionPart, leadingDigits_append digits, after, List.append_nil]

omit closes in
theorem advance_chars (front : List Char) (rest : Text) (offset : Nat) :
    (⟨front.map .scalar ++ rest, offset⟩ : Cursor).advance front.length =
      ⟨rest, offset + front.length⟩ := by
  rw [Cursor.advance, List.drop_left' (List.length_map _)]

omit closes in
/-- A number is read by its parts, from one cursor to the next. -/
theorem numberFrom_eq
    {negative : Bool}
    {whole fraction : List Nat}
    {start point mark : Cursor}
    (afterWhole : start.advance whole.length = point)
    (fractionRead : fractionPart point.rest = fraction)
    (afterFraction :
      (if fraction.isEmpty then point else point.advance (fraction.length + 1)) = mark) :
    numberFrom negative whole start =
      match exponentPart? mark.rest with
      | some (exponent, count) =>
        .ok
          (.real (ofDecimal negative (whole ++ fraction) (exponent - fraction.length)),
            mark.advance count)
      | none =>
        if fraction.isEmpty then
          if Number.digitLimit < whole.length then
            .error (.tooManyDigits whole.length)
          else
            .ok (.int (negateIf negative (ofDigits whole)), mark)
        else
          .ok (.real (ofDecimal negative (whole ++ fraction) (-fraction.length)), mark) := by
  subst afterWhole fractionRead afterFraction
  rfl

/-- Behind its whole part a written number is read to its end. -/
theorem numberFrom_decimal
    {whole fraction : List Char}
    {exponent? : Option (Bool × List Char)}
    (proper : (Decimal.mk whole fraction exponent?).IsProper)
    (short : exponent? = none → fraction = [] → whole.length ≤ Number.digitLimit)
    (negative : Bool)
    (offset : Nat) :
    (numberFrom negative (digitValues whole)
        ⟨(Decimal.mk whole fraction exponent?).chars.map .scalar ++ rest, offset⟩).Yields
      ((Decimal.mk whole fraction exponent?).value negative) rest := by
  -- The cursor after the whole part, and then after the fraction if there is one.
  let point : Cursor :=
    ⟨(fractionChars fraction ++ exponentChars exponent?).map .scalar ++ rest,
      offset + whole.length⟩
  have afterWhole :
      (⟨(Decimal.mk whole fraction exponent?).chars.map .scalar ++ rest, offset⟩ :
          Cursor).advance (digitValues whole).length =
        point := by
    rw [Decimal.chars, List.map_append, List.append_assoc, length_digitValues, advance_chars]
  obtain ⟨later, afterFraction⟩ :
      ∃ later,
        (if (digitValues fraction).isEmpty then point
          else point.advance ((digitValues fraction).length + 1)) =
          ⟨(exponentChars exponent?).map .scalar ++ rest, later⟩ := by
    cases fraction with
    | nil => exact ⟨_, rfl⟩
    | cons first others =>
      have length :
          (digitValues (first :: others)).length + 1 =
            (fractionChars (first :: others)).length := by
        simp [fractionChars, digitValues]
      rw [if_neg (by simp [digitValues]), length]
      simp only [point, List.map_append, List.append_assoc, advance_chars]
      exact ⟨_, rfl⟩
  rw [numberFrom_eq afterWhole (fractionPart_fractionChars closes proper.fraction exponent?)
    afterFraction, exponentPart?_exponentChars closes proper.exponent]
  cases exponent? with
  | some exponent =>
    rcases exponent with ⟨below, digits⟩
    have length : digits.length + 2 = (exponentChars (some (below, digits))).length := rfl
    simp only [Option.map_some, length, advance_chars]
    rw [Decimal.value, digitValues_append, length_digitValues]
    exact ⟨_, rfl⟩
  | none =>
    cases fraction with
    | nil =>
      have few : ¬ Number.digitLimit < (digitValues whole).length := by
        rw [length_digitValues]
        exact Nat.not_lt_of_le (short rfl rfl)
      have empty : (digitValues []).isEmpty = true := rfl
      dsimp only [Option.map_none]
      rw [if_pos empty, if_neg few]
      exact ⟨_, rfl⟩
    | cons first others =>
      rw [Decimal.value, digitValues_append]
      simp only [Option.map_none, digitValues, List.map_cons, List.isEmpty_cons,
        Bool.false_eq_true, if_false, List.length_cons, List.length_map]
      exact ⟨_, rfl⟩

theorem leadingDigits_tail (fraction : List Char) (exponent? : Option (Bool × List Char)) :
    leadingDigits ((fractionChars fraction ++ exponentChars exponent?).map .scalar ++ rest) =
      [] := by
  cases fraction with
  | cons first others => rfl
  | nil =>
    cases exponent? with
    | some exponent => rfl
    | none => exact closes.leadingDigits

theorem wholePart_decimal {decimal : Decimal} (proper : decimal.IsProper) :
    wholePart (decimal.chars.map .scalar ++ rest) = digitValues decimal.whole := by
  have leading :
      leadingDigits (decimal.chars.map .scalar ++ rest) = digitValues decimal.whole := by
    rw [Decimal.chars, List.map_append, List.append_assoc, leadingDigits_append proper.whole,
      leadingDigits_tail closes, List.append_nil]
  rw [wholePart, leading]
  rcases proper.leading with zero | ⟨first, others, digits, nonzero⟩
  · rw [zero]
    rfl
  · have digit := proper.whole first (digits ▸ List.mem_cons_self)
    split
    next rest equal =>
      rw [digits, digitValues, List.map_cons, List.cons.injEq] at equal
      rw [Char.isDigit, Bool.and_eq_true, decide_eq_true_iff, decide_eq_true_iff] at digit
      have low : 48 ≤ first.toNat := digit.1
      have same : first.toNat = '0'.toNat := Nat.le_antisymm (Nat.sub_eq_zero_iff_le.mp equal.1) low
      exact absurd (Char.toNat_inj.mp same) nonzero
    · rfl

end

/-- No word starts with a digit, or with a minus sign and a digit. -/
theorem scalar_eq_number
    {negative : Bool}
    {first : Char}
    (digit : first.isDigit = true)
    (rest : Text)
    (offset : Nat) :
    scalar ⟨(if negative then [.scalar '-'] else []) ++ .scalar first :: rest, offset⟩ =
      number ⟨(if negative then [.scalar '-'] else []) ++ .scalar first :: rest, offset⟩ := by
  have differs (letter : Char) (other : letter.isDigit = false) : letter ≠ first := by
    rintro rfl
    rw [digit] at other
    cases other
  have none :
      (words.find? fun word =>
        word.1.isPrefixOf ((if negative then [.scalar '-'] else []) ++ .scalar first :: rest)) =
          none := by
    rw [List.find?_eq_none]
    cases negative with
    | true => simp [words, Text.ofString, differs 'I' rfl]
    | false =>
      simp [words, Text.ofString, differs 'n' rfl, differs 't' rfl, differs 'f' rfl,
        differs 'N' rfl, differs 'I' rfl, differs '-' rfl]
  rw [scalar, none]

/-- A number is read on from its whole part, behind the sign if there is one. -/
theorem number_eq_numberFrom
    {negative : Bool}
    {first : Char}
    (digit : first.isDigit = true)
    {rest : Text}
    (filled : wholePart (.scalar first :: rest) ≠ [])
    (offset : Nat) :
    number ⟨(if negative then [.scalar '-'] else []) ++ .scalar first :: rest, offset⟩ =
      numberFrom negative (wholePart (.scalar first :: rest))
        ⟨.scalar first :: rest, offset + if negative then 1 else 0⟩ := by
  cases negative with
  | true =>
    rw [if_pos rfl, List.cons_append, List.nil_append, number]
    split
    next equal =>
      cases equal
      split
      next none => exact absurd none filled
      · rfl
    next unsigned => exact absurd rfl (unsigned _)
  | false =>
    rw [if_neg Bool.false_ne_true, List.nil_append, number]
    split
    next equal =>
      cases equal
      cases digit
    · split
      next none => exact absurd none filled
      · rfl

/-- A written number is read in full, in front of whatever closes a value. -/
theorem scalar_decimal
    {rest : Text}
    (closes : Closes rest)
    {whole fraction : List Char}
    {exponent? : Option (Bool × List Char)}
    (proper : (Decimal.mk whole fraction exponent?).IsProper)
    (short : exponent? = none → fraction = [] → whole.length ≤ Number.digitLimit)
    (negative : Bool)
    (offset : Nat) :
    (scalar
        ⟨(if negative then [.scalar '-'] else []) ++
            ((Decimal.mk whole fraction exponent?).chars.map .scalar ++ rest), offset⟩).Yields
      ((Decimal.mk whole fraction exponent?).value negative) rest := by
  have wholeRead := wholePart_decimal closes proper
  have reads := numberFrom_decimal closes proper short negative
  obtain ⟨first, others, digits⟩ : ∃ first others, whole = first :: others := by
    rcases proper.leading with zero | ⟨first, others, digits, _⟩
    · exact ⟨_, _, zero⟩
    · exact ⟨_, _, digits⟩
  have digit : first.isDigit = true := proper.whole first (digits ▸ List.mem_cons_self)
  obtain ⟨more, text⟩ :
      ∃ more,
        (Decimal.mk whole fraction exponent?).chars.map CodePoint.scalar ++ rest =
          .scalar first :: more := by
    rw [Decimal.chars, digits]
    exact ⟨_, rfl⟩
  rw [text] at wholeRead reads ⊢
  have filled : wholePart (.scalar first :: more) ≠ [] := by
    rw [wholeRead, digits]
    exact List.cons_ne_nil _ _
  rw [scalar_eq_number digit, number_eq_numberFrom digit filled, wholeRead]
  exact reads _

/-! ## Integers -/

/-- The digits of a number are a written number. -/
theorem isProper_toDigits (number : Nat) :
    (Decimal.mk (Nat.toDigits 10 number) [] none).IsProper where
  whole _ member := Nat.isDigit_of_mem_toDigits (by decide) (by decide) member
  fraction := List.forall_mem_nil _
  exponent _ _ absent := by cases absent
  leading := by
    cases digits : Nat.toDigits 10 number with
    | nil => exact absurd digits Nat.toDigits_ne_nil
    | cons first others =>
      rcases Nat.eq_zero_or_pos number with rfl | positive
      · exact .inl (digits.symm.trans (Nat.toDigits_zero 10))
      · refine .inr ⟨first, others, rfl, ?_⟩
        rintro rfl
        exact toDigits_ne_zero_cons positive others digits

theorem toString_int (number : Int) :
    Text.ofString (toString number) =
      (if decide (number < 0) then [.scalar '-'] else []) ++
        (Nat.toDigits 10 number.natAbs).map .scalar := by
  rw [Int.toString_eq_repr, Int.repr_eq_if]
  by_cases negative : number < 0
  · have magnitude : (-number).toNat = number.natAbs := by omega
    rw [if_neg (Int.not_le.mpr negative), decide_eq_true negative, magnitude,
      Nat.repr_eq_ofList_toDigits]
    simp [Text.ofString]
  · have magnitude : number.toNat = number.natAbs := by omega
    rw [if_pos (Int.not_lt.mp negative), decide_eq_false negative, magnitude,
      Nat.repr_eq_ofList_toDigits]
    simp [Text.ofString]

theorem value_toDigits (number : Int) :
    (Decimal.mk (Nat.toDigits 10 number.natAbs) [] none).value (decide (number < 0)) =
      .int number := by
  have magnitude : ofDigits (digitValues (Nat.toDigits 10 number.natAbs)) = number.natAbs :=
    ofDigits_decimals number.natAbs
  rw [Decimal.value]
  simp only [List.isEmpty_nil, if_true, magnitude, negateIf, decide_eq_true_iff]
  congr 1
  split
  · omega
  · omega

/-- An integer reads back as itself. -/
theorem scalar_int
    {rest : Text}
    (closes : Closes rest)
    {number : Int}
    (short : Number.isWritable number = true)
    (offset : Nat) :
    (scalar ⟨toString number ++ rest, offset⟩).Yields (.int number) rest := by
  have few : (Nat.toDigits 10 number.natAbs).length ≤ Number.digitLimit := by
    have positive : 0 < Number.digitLimit := by decide
    rw [Number.isWritable, decide_eq_true_iff] at short
    generalize Number.digitLimit = limit at short positive ⊢
    exact (Nat.length_toDigits_le_iff (by decide) positive).mpr short
  have reads :=
    scalar_decimal closes (isProper_toDigits number.natAbs) (fun _ _ => few)
      (decide (number < 0)) offset
  have chars :
      (Decimal.mk (Nat.toDigits 10 number.natAbs) [] none).chars =
        Nat.toDigits 10 number.natAbs :=
    List.append_nil _
  rw [value_toDigits, chars] at reads
  rw [toString_int, List.append_assoc]
  exact reads

end Json

end RunnerFleet
