import RunnerFleet.Value

/-!
# Values as keys

A ledger is keyed by job ids, and a job id may be any value that is not a list
or an object.  Two ids are the same if their keys are equal: truth values count
as the integers zero and one, an integer and a real are the same exactly if
they denote the same number, and texts are only the same as texts.  Equality of
keys is equality of their normal forms, hence an equivalence.
-/

namespace RunnerFleet

/-- The normal form of a value that can be a key.  A number is
`numerator / 2 ^ halvings` with an odd numerator unless it is an integer. -/
inductive Key where
  | null
  | number (numerator : Int) (halvings : Nat)
  | infinity (negative : Bool)
  | notANumber
  | text (content : Text)
  deriving DecidableEq, Repr

/-- Cancel powers of two. -/
def cancelHalves : Nat → Nat → Nat × Nat
  | numerator, 0 => (numerator, 0)
  | numerator, halvings + 1 =>
    if numerator % 2 = 0 then cancelHalves (numerator / 2) halvings
    else (numerator, halvings + 1)

/-- The key of a real. -/
def Key.ofReal (value : Float) : Key :=
  match Number.Exact.ofFloat value with
  | .notANumber => .notANumber
  | .infinite negative => .infinity negative
  | .finite negative significand exponent =>
    if 0 ≤ exponent then
      .number (Number.signed negative (significand * Nat.pow 2 exponent.toNat)) 0
    else
      let (numerator, halvings) := cancelHalves significand (-exponent).toNat
      .number (Number.signed negative numerator) halvings

/-- The key of a value; lists and objects have none. -/
def Value.key? : Value → Option Key
  | .null => some .null
  | .bool flag => some (.number (if flag then 1 else 0) 0)
  | .int number => some (.number number 0)
  | .real number => some (Key.ofReal number)
  | .text content => some (.text content)
  | .list _ => none
  | .object _ => none

@[simp]
theorem Value.key?_text (content : Text) :
    (Value.text content).key? = some (.text content) :=
  rfl

@[simp]
theorem Value.key?_int (number : Int) :
    (Value.int number).key? = some (.number number 0) :=
  rfl

end RunnerFleet
