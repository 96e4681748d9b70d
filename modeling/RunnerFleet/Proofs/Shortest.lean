import RunnerFleet.Proofs.Numerals

/-!
# Written reals

A real is written as the shortest decimal numeral that was found for it, in one of four forms:
with an exponent, below one, as a whole number, or with its point among the digits.  Each of them
is a written number, so a real reads back as the double nearest to that numeral.
-/

namespace RunnerFleet

/-- The digits of a numeral as they are written, and the place of the last one.  A numeral that
is written without an exponent and has no digits after the point has zeros up to one place
after it. -/
def Number.Numeral.written (numeral : Number.Numeral) : List Nat × Int :=
  let digits := Number.decimals numeral.digits
  let point := digits.length + numeral.scale
  if digits.length ≤ point ∧ point ≤ 16 then
    (digits ++ List.replicate (point - digits.length).toNat 0 ++ [0], -1)
  else
    (digits, numeral.scale)

/-- What a written real reads back as: the double nearest to its shortest numeral. -/
def Number.reread (number : Float) : Float :=
  match Number.Exact.ofFloat number with
  | .notANumber => 0.0 / 0.0
  | .infinite negative => if negative then -1.0 / 0.0 else 1.0 / 0.0
  | .finite negative significand exponent =>
    if significand = 0 then
      Number.ofDecimal negative [] 0
    else
      let written := ((Number.shortest significand exponent).stripZeros 20).written
      Number.ofDecimal negative written.1 written.2

namespace Number

/-! ### Shortest numerals -/

theorem quotient_positive {significand : Nat} (positive : 0 < significand) (exponent : Int) :
    0 < (quotient significand exponent).1 := by
  rw [quotient]
  split
  · exact Nat.mul_pos positive (Nat.pow_pos (by decide))
  · exact positive

theorem inUnits_positive
    {numerator : Nat}
    (positive : 0 < numerator)
    (scale : Int)
    (denominator : Nat) :
    0 < (inUnits scale numerator denominator).1 := by
  rw [inUnits]
  split
  · exact positive
  · exact Nat.mul_pos positive (Nat.pow_pos (by decide))

/-- A grid point that reads back as a positive double is not zero. -/
theorem readsBack_positive
    {significand : Nat}
    {exponent scale : Int}
    {point : Nat}
    (positive : 0 < significand)
    (back : readsBack significand exponent scale point = true) :
    0 < point := by
  rcases Nat.eq_zero_or_pos point with rfl | given
  · have low (below : Nat) (few : below ≤ 2) :
        0 < (inUnits scale (quotient (4 * significand - below) (exponent - 2)).1
          (quotient (4 * significand - below) (exponent - 2)).2).1 :=
      inUnits_positive (quotient_positive (by omega) _) _ _
    have smaller :
        0 < (inUnits scale
          (quotient (4 * significand -
            if significand = Nat.pow 2 52 && -1074 < exponent then 1 else 2) (exponent - 2)).1
          (quotient (4 * significand -
            if significand = Nat.pow 2 52 && -1074 < exponent then 1 else 2)
              (exponent - 2)).2).1 :=
      low _ (by split <;> decide)
    simp only [readsBack, Nat.zero_mul] at back
    split at back
    · rw [Bool.and_eq_true, decide_eq_true_iff] at back
      exact absurd back.1 (Nat.not_le_of_gt smaller)
    · rw [Bool.and_eq_true, decide_eq_true_iff] at back
      exact absurd back.1 (Nat.not_lt_zero _)
  · exact given

theorem div_le_roundHalfEven (numerator denominator : Nat) :
    numerator / denominator ≤ roundHalfEven numerator denominator := by
  simp only [roundHalfEven]
  split
  · exact Nat.le_refl _
  · split
    · exact Nat.le_add_right _ _
    · exact Nat.le_succ _

theorem gridPoint?_positive
    {significand : Nat}
    {exponent : Int}
    {count : Nat}
    {numeral : Numeral}
    (positive : 0 < significand)
    (found : gridPoint? significand exponent count = some numeral) :
    0 < numeral.digits := by
  simp only [gridPoint?] at found
  split at found
  next both =>
    cases found
    rw [Bool.and_eq_true] at both
    exact Nat.lt_of_lt_of_le (readsBack_positive positive both.1) (div_le_roundHalfEven _ _)
  next =>
    split at found
    next below =>
      cases found
      exact readsBack_positive positive below
    next =>
      split at found
      · cases found
        exact Nat.succ_pos _
      · cases found

theorem shortest_positive {significand : Nat} (positive : 0 < significand) (exponent : Int) :
    0 < (shortest significand exponent).digits := by
  rw [shortest]
  cases found : (List.range 17).findSome? fun count =>
      gridPoint? significand exponent (count + 1) with
  | none => exact positive
  | some numeral =>
    rcases List.exists_of_findSome?_eq_some found with ⟨count, _, point⟩
    exact gridPoint?_positive positive point

theorem stripZeros_positive
    {numeral : Numeral}
    (positive : 0 < numeral.digits)
    (bound : Nat) :
    0 < (numeral.stripZeros bound).digits := by
  induction bound generalizing numeral with
  | zero => exact positive
  | succ bound ih =>
    rw [Numeral.stripZeros]
    split
    next round =>
      rw [Bool.and_eq_true, decide_eq_true_iff] at round
      exact ih (by dsimp only; omega)
    · exact positive

end Number

namespace Json

open Number (digitValues decimals ofDigits ofDecimal negateIf)

theorem ofDecimal_zeros (negative : Bool) (count : Nat) (digits : List Nat) (scale : Int) :
    ofDecimal negative (List.replicate count 0 ++ digits) scale =
      ofDecimal negative digits scale := by
  have same :
      (List.replicate count 0 ++ digits).dropWhile (· == 0) = digits.dropWhile (· == 0) :=
    List.dropWhile_append_of_pos (by simp)
  simp only [ofDecimal, same]

theorem digitValues_zeros (count : Nat) :
    digitValues (List.replicate count '0') = List.replicate count 0 :=
  List.map_replicate

theorem isDigit_zeros (count : Nat) : ∀ char ∈ List.replicate count '0', char.isDigit = true := by
  intro char member
  rw [List.eq_of_mem_replicate member]
  rfl

theorem ofString_ofList (chars : List Char) :
    Text.ofString (String.ofList chars) = chars.map .scalar := by
  simp [Text.ofString]

theorem isDigit_toDigits (number : Nat) :
    ∀ char ∈ Nat.toDigits 10 number, char.isDigit = true :=
  fun _ member => Nat.isDigit_of_mem_toDigits (by decide) (by decide) member

/-- The digits of an exponent: there are at least two. -/
def exponentDigits (exponent : Nat) : List Char :=
  if exponent < 10 then '0' :: Nat.toDigits 10 exponent else Nat.toDigits 10 exponent

/-- The size of an exponent is written with these digits. -/
theorem ofList_exponentDigits (exponent : Nat) :
    String.ofList (exponentDigits exponent) =
      if exponent < 10 then "0" ++ toString exponent else toString exponent := by
  rw [exponentDigits, Nat.toString_eq_ofList_toDigits]
  split
  · exact String.toList_inj.mp (by simp)
  · rfl

theorem ofString_exponentMark {point : Int} :
    Text.ofString (if point ≤ 0 then "e-" else "e+") =
      [.scalar 'e', .scalar (if decide (point ≤ 0) then '-' else '+')] := by
  by_cases small : point ≤ 0
  · rw [if_pos small, decide_eq_true small]
    rfl
  · rw [if_neg small, decide_eq_false small]
    rfl

theorem ofDigits_exponentDigits (exponent : Nat) :
    ofDigits (digitValues (exponentDigits exponent)) = exponent := by
  have value : ofDigits (digitValues (Nat.toDigits 10 exponent)) = exponent :=
    ofDigits_decimals exponent
  rw [exponentDigits]
  split
  · exact value
  · exact value

theorem isDigit_exponentDigits (exponent : Nat) :
    exponentDigits exponent ≠ [] ∧ ∀ char ∈ exponentDigits exponent, char.isDigit = true := by
  rw [exponentDigits]
  split
  · exact ⟨List.cons_ne_nil _ _, List.forall_mem_cons.mpr ⟨rfl, isDigit_toDigits exponent⟩⟩
  · exact ⟨Nat.toDigits_ne_nil, isDigit_toDigits exponent⟩

/-! ### The four forms of a numeral -/

/-- The place of the point of a numeral, counted from its leading digit. -/
def point (numeral : Number.Numeral) : Int :=
  (Nat.toDigits 10 numeral.digits).length + numeral.scale

/-- A written number tells a numeral. -/
structure Decimal.Tells (decimal : Decimal) (numeral : Number.Numeral) : Prop where
  text : Text.ofString numeral.text = decimal.chars.map .scalar
  proper : decimal.IsProper
  real : decimal.exponent? = none → decimal.fraction ≠ []
  value :
    ∀ negative,
      decimal.value negative =
        .real (ofDecimal negative numeral.written.1 numeral.written.2)

theorem text_eq (numeral : Number.Numeral) :
    let digits := Nat.toDigits 10 numeral.digits
    numeral.text =
      if point numeral ≤ -4 || 16 < point numeral then
        String.ofList (digits.take 1 ++ if digits.length = 1 then [] else '.' :: digits.drop 1) ++
          (if point numeral ≤ 0 then "e-" else "e+") ++
            if (point numeral - 1).natAbs < 10 then "0" ++ toString (point numeral - 1).natAbs
            else toString (point numeral - 1).natAbs
      else if point numeral ≤ 0 then
        String.ofList ('0' :: '.' :: List.replicate (-point numeral).toNat '0' ++ digits)
      else if (digits.length : Int) ≤ point numeral then
        String.ofList
          (digits ++ List.replicate (point numeral - digits.length).toNat '0' ++ ['.', '0'])
      else
        String.ofList
          (digits.take (point numeral).toNat ++ '.' :: digits.drop (point numeral).toNat) :=
  rfl

section

variable {numeral : Number.Numeral}

theorem written_eq_self (place : numeral.scale < 0 ∨ 16 < point numeral) :
    numeral.written = (decimals numeral.digits, numeral.scale) := by
  have length : (decimals numeral.digits).length = (Nat.toDigits 10 numeral.digits).length :=
    length_digitValues _
  simp only [Number.Numeral.written, length]
  rw [point] at place
  rw [if_neg (by omega)]

theorem written_eq_zeros (whole : 0 ≤ numeral.scale) (near : point numeral ≤ 16) :
    numeral.written =
      (decimals numeral.digits ++ List.replicate numeral.scale.toNat 0 ++ [0], -1) := by
  have length : (decimals numeral.digits).length = (Nat.toDigits 10 numeral.digits).length :=
    length_digitValues _
  have zeros (count : Nat) : (count + numeral.scale - count : Int) = numeral.scale := by omega
  simp only [Number.Numeral.written, length, zeros]
  rw [point] at near
  rw [if_pos (by omega)]

theorem length_toDigits_pos (number : Nat) : 0 < (Nat.toDigits 10 number).length :=
  List.length_pos_iff.mpr Nat.toDigits_ne_nil

variable (positive : 0 < numeral.digits)

include positive

theorem toDigits_leading :
    ∃ first others,
      Nat.toDigits 10 numeral.digits = first :: others ∧
        first ≠ '0' ∧ first.isDigit = true ∧ ∀ char ∈ others, char.isDigit = true := by
  have digits := isDigit_toDigits numeral.digits
  cases chars : Nat.toDigits 10 numeral.digits with
  | nil => exact absurd chars Nat.toDigits_ne_nil
  | cons first others =>
    rw [chars, List.forall_mem_cons] at digits
    refine ⟨first, others, rfl, ?_, digits⟩
    rintro rfl
    exact toDigits_ne_zero_cons positive others chars

/-- Far from the point a numeral is written with an exponent. -/
theorem tells_of_far (far : point numeral ≤ -4 ∨ 16 < point numeral) :
    ∃ decimal : Decimal, decimal.Tells numeral := by
  rcases toDigits_leading positive with ⟨first, others, chars, nonzero, digit, digits⟩
  have place : point numeral = others.length + 1 + numeral.scale := by
    rw [point, chars, List.length_cons]
    rfl
  have lead : numeral.text =
      String.ofList (first :: fractionChars others) ++
        (if point numeral ≤ 0 then "e-" else "e+") ++
          String.ofList (exponentDigits (point numeral - 1).natAbs) := by
    have front :
        (first :: others).take 1 ++
            (if (first :: others).length = 1 then [] else '.' :: (first :: others).drop 1) =
          first :: fractionChars others := by
      cases others with
      | nil => rfl
      | cons second more => rfl
    rw [text_eq, chars, front, ← ofList_exponentDigits, if_pos (by simpa using far)]
  refine
    ⟨⟨[first], others,
      some (decide (point numeral ≤ 0), exponentDigits (point numeral - 1).natAbs)⟩, ?_⟩
  exact
    { text := by
        rw [lead, Text.ofString_append, Text.ofString_append, ofString_ofList, ofString_ofList,
          ofString_exponentMark]
        simp [Decimal.chars, exponentChars]
      proper :=
        { whole := List.forall_mem_singleton.mpr digit
          fraction := digits
          exponent := by
            rintro _ _ ⟨⟩
            exact isDigit_exponentDigits _
          leading := .inr ⟨first, [], rfl, nonzero⟩ }
      real := nofun
      value := by
        intro negative
        have exponent :
            negateIf (decide (point numeral ≤ 0)) (point numeral - 1).natAbs - others.length =
              numeral.scale := by
          simp only [negateIf, decide_eq_true_iff]
          split
          · omega
          · omega
        have digits : digitValues ([first] ++ others) = decimals numeral.digits := by
          rw [decimals, chars]
          rfl
        rw [written_eq_self (by omega), Decimal.value]
        simp only [ofDigits_exponentDigits, exponent, digits] }

omit positive in
/-- A numeral below one is written with zeros after the point. -/
theorem tells_of_small (near : -4 < point numeral) (small : point numeral ≤ 0) :
    ∃ decimal : Decimal, decimal.Tells numeral := by
  have count := length_toDigits_pos numeral.digits
  have below : numeral.scale < 0 := by
    rw [point] at small
    omega
  have text :
      numeral.text =
        String.ofList ('0' :: '.' :: List.replicate (-point numeral).toNat '0' ++
          Nat.toDigits 10 numeral.digits) := by
    rw [text_eq, if_neg (by simp; omega), if_pos small]
  refine
    ⟨⟨['0'], List.replicate (-point numeral).toNat '0' ++ Nat.toDigits 10 numeral.digits,
      none⟩, ?_⟩
  exact
    { text := by
        rw [text, ofString_ofList]
        simp [Decimal.chars, fractionChars, exponentChars, Nat.toDigits_ne_nil]
      proper :=
        { whole := List.forall_mem_singleton.mpr rfl
          fraction := List.forall_mem_append.mpr ⟨isDigit_zeros _, isDigit_toDigits _⟩
          exponent := fun _ _ absent => by cases absent
          leading := .inl rfl }
      real := by simp [Nat.toDigits_ne_nil]
      value := by
        intro negative
        have given :
            (List.replicate (-point numeral).toNat '0' ++
              Nat.toDigits 10 numeral.digits).isEmpty = false := by
          simp [Nat.toDigits_ne_nil]
        have scale :
            -((List.replicate (-point numeral).toNat '0' ++
              Nat.toDigits 10 numeral.digits).length : Int) = numeral.scale := by
          rw [List.length_append, List.length_replicate]
          rw [point] at small ⊢
          omega
        have digits :
            digitValues (['0'] ++ (List.replicate (-point numeral).toNat '0' ++
                Nat.toDigits 10 numeral.digits)) =
              List.replicate ((-point numeral).toNat + 1) 0 ++ decimals numeral.digits := by
          rw [digitValues_append, digitValues_append, digitValues_zeros, List.replicate_succ]
          rfl
        rw [written_eq_self (.inl below), Decimal.value]
        simp only [given, scale, digits, ofDecimal_zeros, Bool.false_eq_true, if_false] }

/-- A whole numeral is written with zeros up to one place after the point. -/
theorem tells_of_whole (whole : 0 ≤ numeral.scale) (near : point numeral ≤ 16) :
    ∃ decimal : Decimal, decimal.Tells numeral := by
  rcases toDigits_leading positive with ⟨first, others, chars, nonzero, _⟩
  have count := length_toDigits_pos numeral.digits
  have text :
      numeral.text =
        String.ofList (Nat.toDigits 10 numeral.digits ++
          List.replicate numeral.scale.toNat '0' ++ ['.', '0']) := by
    have zeros : point numeral - (Nat.toDigits 10 numeral.digits).length = numeral.scale := by
      rw [point]
      omega
    rw [text_eq, zeros]
    rw [point] at near ⊢
    rw [if_neg (by simp; omega), if_neg (by omega), if_pos (by omega)]
  refine
    ⟨⟨Nat.toDigits 10 numeral.digits ++ List.replicate numeral.scale.toNat '0', ['0'],
      none⟩, ?_⟩
  exact
    { text := by
        rw [text, ofString_ofList]
        simp [Decimal.chars, fractionChars, exponentChars]
      proper :=
        { whole := List.forall_mem_append.mpr ⟨isDigit_toDigits _, isDigit_zeros _⟩
          fraction := List.forall_mem_singleton.mpr rfl
          exponent := fun _ _ absent => by cases absent
          leading := .inr ⟨first, others ++ _, by rw [chars, List.cons_append], nonzero⟩ }
      real := fun _ => List.cons_ne_nil _ _
      value := by
        intro negative
        have given : ['0'].isEmpty = false := rfl
        rw [written_eq_zeros whole near, Decimal.value]
        simp only [given, Bool.false_eq_true, if_false]
        rw [digitValues_append, digitValues_append, digitValues_zeros]
        rfl }

/-- Every other numeral is written with the point among its digits. -/
theorem tells_of_between
    (small : 0 < point numeral)
    (near : point numeral ≤ 16)
    (below : numeral.scale < 0) :
    ∃ decimal : Decimal, decimal.Tells numeral := by
  rcases toDigits_leading positive with ⟨first, others, chars, nonzero, _⟩
  have place : (point numeral).toNat < (Nat.toDigits 10 numeral.digits).length := by
    rw [point] at small ⊢
    omega
  have digits := isDigit_toDigits numeral.digits
  have text :
      numeral.text =
        String.ofList ((Nat.toDigits 10 numeral.digits).take (point numeral).toNat ++
          '.' :: (Nat.toDigits 10 numeral.digits).drop (point numeral).toNat) := by
    rw [text_eq, if_neg (by simp; omega), if_neg (by omega), if_neg (by omega)]
  have given : (Nat.toDigits 10 numeral.digits).drop (point numeral).toNat ≠ [] := by
    simpa using place
  refine
    ⟨⟨(Nat.toDigits 10 numeral.digits).take (point numeral).toNat,
      (Nat.toDigits 10 numeral.digits).drop (point numeral).toNat, none⟩, ?_⟩
  exact
    { text := by
        rw [text, ofString_ofList]
        simp [Decimal.chars, fractionChars, exponentChars, given]
      proper :=
        { whole := fun char member => digits char (List.mem_of_mem_take member)
          fraction := fun char member => digits char (List.mem_of_mem_drop member)
          exponent := fun _ _ absent => by cases absent
          leading := by
            obtain ⟨count, length⟩ : ∃ count, (point numeral).toNat = count + 1 :=
              ⟨(point numeral).toNat - 1, by omega⟩
            refine .inr ⟨first, others.take count, ?_, nonzero⟩
            rw [chars, length, List.take_succ_cons] }
      real := fun _ => given
      value := by
        intro negative
        have scale :
            -(((Nat.toDigits 10 numeral.digits).drop (point numeral).toNat).length : Int) =
              numeral.scale := by
          rw [List.length_drop]
          rw [point] at small ⊢
          omega
        have filled :
            ((Nat.toDigits 10 numeral.digits).drop (point numeral).toNat).isEmpty = false := by
          simpa using given
        rw [written_eq_self (.inl below), Decimal.value]
        simp only [filled, scale, List.take_append_drop, Bool.false_eq_true, if_false]
        rfl }

/-- Every numeral is told by a written number. -/
theorem exists_tells : ∃ decimal : Decimal, decimal.Tells numeral := by
  by_cases far : point numeral ≤ -4 ∨ 16 < point numeral
  · exact tells_of_far positive far
  · by_cases small : point numeral ≤ 0
    · exact tells_of_small (by omega) small
    · by_cases whole : 0 ≤ numeral.scale
      · exact tells_of_whole positive whole (by omega)
      · exact tells_of_between positive (by omega) (by omega) (by omega)

end

/-! ### Reals in front of a rest -/

/-- A word is read in front of whatever follows. -/
theorem scalar_word
    {word : Text × Value}
    (known : word ∈ words)
    (rest : Text)
    (offset : Nat) :
    (scalar ⟨word.1 ++ rest, offset⟩).Yields word.2 rest := by
  simp only [words, List.mem_cons, List.not_mem_nil, or_false] at known
  rcases known with rfl | rfl | rfl | rfl | rfl | rfl
  all_goals exact ⟨_, rfl⟩

theorem ofString_sign (negative : Bool) :
    Text.ofString (if negative then "-" else "") =
      if negative then [.scalar '-'] else [] := by
  cases negative with
  | true => rfl
  | false => rfl

/-- A real reads back as the double nearest to its shortest numeral. -/
theorem scalar_real
    {rest : Text}
    (closes : Closes rest)
    (number : Float)
    (offset : Nat) :
    (scalar ⟨writeReal number ++ rest, offset⟩).Yields (.real (Number.reread number)) rest := by
  have notANumber : (("NaN", .real (0.0 / 0.0)) : Text × Value) ∈ words := by simp [words]
  have below : (("-Infinity", .real (-1.0 / 0.0)) : Text × Value) ∈ words := by simp [words]
  have above : (("Infinity", .real (1.0 / 0.0)) : Text × Value) ∈ words := by simp [words]
  rw [writeReal, Number.reread, Number.realText]
  cases Number.Exact.ofFloat number with
  | notANumber => exact scalar_word notANumber rest offset
  | infinite negative =>
    cases negative with
    | true => exact scalar_word below rest offset
    | false => exact scalar_word above rest offset
  | finite negative significand exponent =>
    dsimp only
    by_cases zero : significand = 0
    · have proper : (Decimal.mk ['0'] ['0'] none).IsProper :=
        { whole := List.forall_mem_singleton.mpr rfl
          fraction := List.forall_mem_singleton.mpr rfl
          exponent := fun _ _ absent => by cases absent
          leading := .inl rfl }
      have reads :=
        scalar_decimal closes proper (fun _ none => absurd none (List.cons_ne_nil _ _)) negative
          offset
      rw [if_pos zero, if_pos zero, Text.ofString_append, ofString_sign, List.append_assoc]
      exact reads
    · have positive : 0 < significand := Nat.pos_of_ne_zero zero
      rcases exists_tells (Number.stripZeros_positive (Number.shortest_positive positive exponent)
        20) with ⟨decimal, text, proper, real, value⟩
      have reads :=
        scalar_decimal closes proper (fun whole none => absurd none (real whole)) negative offset
      rw [if_neg zero, if_neg zero, Text.ofString_append, ofString_sign, text, List.append_assoc,
        ← value]
      exact reads

end Json

end RunnerFleet
