/-!
# Exact values of reals

A double-precision number is taken apart into sign, significand and exponent.
What the service prints, compares or truncates is computed on these integers,
so no step of it rounds.
-/

namespace RunnerFleet.Number

/-- A double, taken apart: a finite one is
`± significand * 2 ^ exponent`. -/
inductive Exact where
  | finite (negative : Bool) (significand : Nat) (exponent : Int)
  | infinite (negative : Bool)
  | notANumber
  deriving DecidableEq, Repr

/-- Take a double apart. -/
def Exact.ofFloat (value : Float) : Exact :=
  let bits := value.toBits.toNat
  let negative : Bool := Nat.pow 2 63 ≤ bits
  let biased : Nat := bits / Nat.pow 2 52 % 2048
  let fraction : Nat := bits % Nat.pow 2 52
  if biased = 2047 then
    if fraction = 0 then .infinite negative else .notANumber
  else if biased = 0 then
    .finite negative fraction (-1074)
  else
    .finite negative (Nat.pow 2 52 + fraction) ((biased : Int) - 1075)

/-- The magnitude of a finite double as a quotient of natural numbers. -/
def quotient
    (significand : Nat)
    (exponent : Int) : Nat × Nat :=
  if 0 ≤ exponent then
    (significand * Nat.pow 2 exponent.toNat, 1)
  else
    (significand, Nat.pow 2 (-exponent).toNat)

/-- The nearest natural number to a quotient; a half goes to the even
neighbour. -/
def roundHalfEven (numerator denominator : Nat) : Nat :=
  let floor := numerator / denominator
  let twice := 2 * (numerator % denominator)
  if twice < denominator then floor
  else if twice = denominator then floor + floor % 2
  else floor + 1

/-- A natural number with a sign. -/
def signed (negative : Bool) (magnitude : Nat) : Int :=
  if negative then -(magnitude : Int) else magnitude

/-- The integer part of a double, cut off toward zero; none for the values that
are not finite. -/
def truncate? (value : Float) : Option Int :=
  match Exact.ofFloat value with
  | .finite negative significand exponent =>
    let (numerator, denominator) := quotient significand exponent
    some (signed negative (numerator / denominator))
  | _ => none

/-- The greatest integer below or at a double; none for the values that are not
finite. -/
def floor? (value : Float) : Option Int :=
  match Exact.ofFloat value with
  | .finite negative significand exponent =>
    let (numerator, denominator) := quotient significand exponent
    some (Int.fdiv (signed negative numerator) denominator)
  | _ => none

/-- The nearest integer to a double, a half going to the even neighbour; none
for the values that are not finite. -/
def nearest? (value : Float) : Option Int :=
  match Exact.ofFloat value with
  | .finite negative significand exponent =>
    let (numerator, denominator) := quotient significand exponent
    some (signed negative (roundHalfEven numerator denominator))
  | _ => none

/-- A double without places after the point. -/
def wholeText (value : Float) : String :=
  match Exact.ofFloat value with
  | .finite negative significand exponent =>
    let (numerator, denominator) := quotient significand exponent
    (if negative then "-" else "") ++ toString (roundHalfEven numerator denominator)
  | .infinite negative => if negative then "-inf" else "inf"
  | .notANumber => "nan"

example : roundHalfEven 5 2 = 2 := by decide
example : roundHalfEven 7 2 = 4 := by decide
example : roundHalfEven 8 3 = 3 := by decide

end RunnerFleet.Number
