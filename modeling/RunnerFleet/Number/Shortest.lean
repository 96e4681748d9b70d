import RunnerFleet.Number.Exact

/-!
# The shortest decimal text of a real

A double is written with the fewest significant digits that read back as the
same double; among the numerals of that length the nearest one is taken.  The
decimal grids of one, two, and up to seventeen digits are tried in turn: a grid
has a point between the double's two rounding boundaries exactly if one of the
two grid points next to the double lies there.
-/

namespace RunnerFleet.Number

/-- A positive decimal number `digits * 10 ^ scale`. -/
structure Numeral where
  digits : Nat
  scale : Int
  deriving DecidableEq, Repr

/-- The least count up to a bound for which a power of ten lifts the numerator
to the denominator. -/
def liftingPower
    (denominator : Nat) : Nat → Nat → Nat → Nat
  | 0, _, count => count
  | bound + 1, numerator, count =>
    if denominator ≤ numerator then count
    else liftingPower denominator bound (10 * numerator) (count + 1)

/-- The place of the leading digit of a positive quotient: it lies from
`10 ^ (place - 1)` up to, and below, `10 ^ place`. -/
def leadingPlace (numerator denominator : Nat) : Int :=
  if denominator ≤ numerator then
    (Nat.toDigits 10 (numerator / denominator)).length
  else
    1 - (liftingPower denominator 400 numerator 0 : Int)

/-- The quotient, in units of `10 ^ scale`, as a quotient again. -/
def inUnits
    (scale : Int)
    (numerator denominator : Nat) : Nat × Nat :=
  if 0 ≤ scale then
    (numerator, denominator * Nat.pow 10 scale.toNat)
  else
    (numerator * Nat.pow 10 (-scale).toNat, denominator)

/-- Whether the grid point `point * 10 ^ scale` reads back as the double
`significand * 2 ^ exponent`: it lies between the midpoints to the neighbouring
doubles, the midpoints themselves counting for an even significand.  Below a
power of two the neighbours are twice as close. -/
def readsBack
    (significand : Nat)
    (exponent : Int)
    (scale : Int)
    (point : Nat) : Bool :=
  let below := if significand = Nat.pow 2 52 && -1074 < exponent then 1 else 2
  let (low, unit) := quotient (4 * significand - below) (exponent - 2)
  let (high, _) := quotient (4 * significand + 2) (exponent - 2)
  let (low, lowUnit) := inUnits scale low unit
  let (high, highUnit) := inUnits scale high unit
  if significand % 2 = 0 then
    low ≤ point * lowUnit && point * highUnit ≤ high
  else
    low < point * lowUnit && point * highUnit < high

/-- The nearest point that reads back on the grid with the given number of
digits, if the grid has one. -/
def gridPoint?
    (significand : Nat)
    (exponent : Int)
    (count : Nat) : Option Numeral :=
  let (numerator, denominator) := quotient significand exponent
  let scale := leadingPlace numerator denominator - count
  let (units, unit) := inUnits scale numerator denominator
  let floor := units / unit
  let below := readsBack significand exponent scale floor
  let above := readsBack significand exponent scale (floor + 1)
  let nearest := roundHalfEven units unit
  if below && above then some ⟨nearest, scale⟩
  else if below then some ⟨floor, scale⟩
  else if above then some ⟨floor + 1, scale⟩
  else none

/-- The shortest numeral that reads back as a positive double. -/
def shortest (significand : Nat) (exponent : Int) : Numeral :=
  ((List.range 17).findSome? fun count => gridPoint? significand exponent (count + 1)).getD
    ⟨significand, exponent⟩

/-- A numeral without zeros at its end. -/
def Numeral.stripZeros (numeral : Numeral) : Nat → Numeral
  | 0 => numeral
  | bound + 1 =>
    if numeral.digits % 10 = 0 && numeral.digits ≠ 0 then
      Numeral.stripZeros ⟨numeral.digits / 10, numeral.scale + 1⟩ bound
    else
      numeral

/-- The text of a numeral.  From `10 ^ -4` up to, and below, `10 ^ 16` it is
positional with at least one digit on either side of the point; elsewhere one
digit stands before the point and the exponent has a sign and at least two
digits. -/
def Numeral.text (numeral : Numeral) : String :=
  let digits := Nat.toDigits 10 numeral.digits
  let count := digits.length
  let point := (count : Int) + numeral.scale
  let zeros (amount : Int) := List.replicate amount.toNat '0'
  if point ≤ -4 || 16 < point then
    let exponent := (point - 1).natAbs
    let mark := if point ≤ 0 then "e-" else "e+"
    let exponentText := if exponent < 10 then "0" ++ toString exponent else toString exponent
    let fraction := if count = 1 then [] else '.' :: digits.drop 1
    String.ofList (digits.take 1 ++ fraction) ++ mark ++ exponentText
  else if point ≤ 0 then
    String.ofList ('0' :: '.' :: zeros (-point) ++ digits)
  else if (count : Int) ≤ point then
    String.ofList (digits ++ zeros (point - count) ++ ['.', '0'])
  else
    String.ofList (digits.take point.toNat ++ '.' :: digits.drop point.toNat)

/-- The text of a real. -/
def realText (value : Float) : String :=
  match Exact.ofFloat value with
  | .notANumber => "nan"
  | .infinite negative => if negative then "-inf" else "inf"
  | .finite negative significand exponent =>
    let sign := if negative then "-" else ""
    if significand = 0 then
      sign ++ "0.0"
    else
      sign ++ ((shortest significand exponent).stripZeros 20).text

end RunnerFleet.Number
