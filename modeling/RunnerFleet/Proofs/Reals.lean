import Mathlib.Algebra.Group.Nat.Defs
import RunnerFleet.Number.Reading

/-!
# Reals and the value that is no number

A real of double precision is unpacked, computed with and packed again.  Rounding makes no
value that is no number out of any other, and neither do the products and quotients by which a
decimal is read, so a text is read as that value only if it is spelled out.

It passes every check that refuses what is zero or less, and no real is less than it.  A finite
time is zero seconds after itself.
-/

namespace RunnerFleet.Number

open Float.Model
open RunnerFleet.Text

/-! ## Unpacked reals -/

section

variable (spec : Format)

/-- A real is no number if all bits of its exponent are set and some of its mantissa. -/
theorem isNaN_unpack_iff {bits : BitVec spec.numBits} :
    (UnpackedFloat.unpack spec bits).isNaN = true ↔
      UnpackedFloat.unpackExponent bits = -1#_ ∧ UnpackedFloat.unpackMantissa bits ≠ 0#_ := by
  delta UnpackedFloat.unpack
  dsimp only
  by_cases full : UnpackedFloat.unpackExponent bits = -1#_
  · rw [if_pos full]
    by_cases empty : UnpackedFloat.unpackMantissa bits = 0#_
    · rw [if_pos empty]
      exact iff_of_false Bool.false_ne_true fun both => both.2 empty
    · rw [if_neg empty]
      exact iff_of_true rfl ⟨full, empty⟩
  · rw [if_neg full]
    refine iff_of_false ?_ fun both => full both.1
    by_cases low : UnpackedFloat.unpackExponent bits = 0#_
    · rw [if_pos low]
      by_cases empty : UnpackedFloat.unpackMantissa bits = 0#_
      · rw [dif_pos empty]
        exact Bool.false_ne_true
      · rw [dif_neg empty]
        exact Bool.false_ne_true
    · rw [if_neg low]
      exact Bool.false_ne_true

theorem packed_exponent_ne
    {biased : Nat}
    (fits : biased + 1 < 2 ^ spec.exponentBits) :
    BitVec.ofNat spec.exponentBits biased ≠ -1#_ := by
  intro full
  have values := congrArg BitVec.toNat full
  rw [BitVec.neg_one_eq_allOnes, BitVec.toNat_ofNat, BitVec.toNat_allOnes,
    Nat.mod_eq_of_lt (by omega)] at values
  omega

/-- Packing makes no value that is no number out of any other. -/
theorem isNaN_unpack_pack
    {value : UnpackedFloat}
    (regular : value.isNaN = false) :
    (UnpackedFloat.unpack spec (UnpackedFloat.pack spec value)).isNaN = false := by
  have room : 0 + 1 < 2 ^ spec.exponentBits := Nat.one_lt_two_pow (Nat.ne_of_gt spec.he)
  rw [Bool.eq_false_iff, Ne, isNaN_unpack_iff]
  fun_cases UnpackedFloat.pack spec value with
  | case1 => cases regular
  | case2 sign | case4 sign =>
    rintro ⟨_, filled⟩
    rw [UnpackedFloat.packedInfinity, UnpackedFloat.unpackMantissa_packComponents] at filled
    exact filled rfl
  | case3 sign =>
    rintro ⟨full, _⟩
    rw [UnpackedFloat.packedZero, UnpackedFloat.unpackExponent_packComponents] at full
    exact packed_exponent_ne spec room full
  | case5 sign mantissa exponent _ _ biased fits =>
    rintro ⟨full, _⟩
    rw [UnpackedFloat.unpackExponent_packComponents] at full
    exact packed_exponent_ne spec (Nat.lt_of_not_le fits) full
  | case6 sign mantissa exponent _ _ biased fits =>
    rintro ⟨full, _⟩
    rw [UnpackedFloat.unpackExponent_packComponents] at full
    exact packed_exponent_ne spec room full

theorem isNaN_roundWithAccuracy
    (sign : UnpackedFloat.Sign)
    (mantissa : Nat)
    (exponent : Int)
    (accuracy : UnpackedFloat.Accuracy) :
    (UnpackedFloat.roundWithAccuracy spec sign mantissa exponent accuracy).isNaN = false := by
  have kept (mantissa : Nat) (exponent : Int) :
      (if none : mantissa = 0 then
          UnpackedFloat.zero sign
        else
          .finite sign mantissa exponent (Nat.pos_of_ne_zero none)).isNaN = false := by
    by_cases none : mantissa = 0
    · rw [dif_pos none]
      rfl
    · rw [dif_neg none]
      rfl
  exact kept _ _

theorem isNaN_normalize (mantissa exponent : Int) (sign : UnpackedFloat.Sign) :
    (UnpackedFloat.normalize spec mantissa exponent sign).isNaN = false := by
  rw [UnpackedFloat.normalize]
  split
  · exact isNaN_roundWithAccuracy ..
  · rfl
  · exact isNaN_roundWithAccuracy ..

/-- Whether an unpacked real is neither a zero nor one of the special values. -/
def isProper : UnpackedFloat → Bool
  | .finite _ _ _ _ => true
  | _ => false

variable
  {first second : UnpackedFloat}
  (regular : first.isNaN = false)
  (proper : isProper second = true)

include regular proper

theorem isNaN_mul : (UnpackedFloat.mul spec first second).isNaN = false := by
  cases second with
  | finite sign mantissa exponent positive =>
    cases first with
    | notANumber => cases regular
    | infinity | zero => rfl
    | finite => exact isNaN_roundWithAccuracy ..
  | notANumber | infinity | zero => cases proper

theorem isNaN_div : (UnpackedFloat.div spec first second).isNaN = false := by
  cases second with
  | finite sign mantissa exponent positive =>
    cases first with
    | notANumber => cases regular
    | infinity | zero => rfl
    | finite => exact isNaN_roundWithAccuracy ..
  | notANumber | infinity | zero => cases proper

omit regular proper in
theorem isNaN_scientific (digits : Nat) (scale : Int) :
    (UnpackedFloat.ofScientific spec digits scale).isNaN = false := by
  have chosen
      {condition : Prop}
      [Decidable condition]
      {first second : UnpackedFloat}
      (regular : first.isNaN = false)
      (otherwise : second.isNaN = false) :
      (if condition then first else second).isNaN = false := by
    split
    · exact regular
    · exact otherwise
  rw [UnpackedFloat.ofScientific]
  by_cases none : digits = 0
  · rw [dif_pos none]
    rfl
  · rw [dif_neg none]
    exact chosen rfl (chosen rfl (chosen (isNaN_mul _ rfl rfl) (isNaN_div _ rfl rfl)))

end

/-! ## Reals -/

/-- What is packed is a number if it was one before. -/
theorem isNaN_pack {value : UnpackedFloat} (regular : value.isNaN = false) :
    (Float.ofModel (.pack value)).isNaN = false :=
  isNaN_unpack_pack _ regular

theorem zero_eq_pack : (0.0 : Float) = .ofModel (.pack (.zero .positive)) := by
  decide +kernel

theorem unpack_zero : (0.0 : Float).toModel.unpack = .zero .positive := by
  rw [zero_eq_pack]
  rfl

theorem le_iff_unpack {first second : Float} :
    first ≤ second ↔ first.toModel.unpack.le second.toModel.unpack = true :=
  decide_eq_true_iff

theorem lt_iff_unpack {first second : Float} :
    first < second ↔ first.toModel.unpack.lt second.toModel.unpack = true :=
  decide_eq_true_iff

/-- What is not zero or less is more than zero, unless it is no number. -/
theorem zero_lt_iff {value : Float} (accepted : ¬ value ≤ 0.0) :
    0.0 < value ↔ value.isNaN = false := by
  rw [le_iff_unpack, unpack_zero] at accepted
  rw [lt_iff_unpack, unpack_zero]
  show _ ↔ value.toModel.unpack.isNaN = false
  generalize value.toModel.unpack = unpacked at accepted ⊢
  have signs (sign : UnpackedFloat.Sign) : sign = .positive ∨ sign = .negative := by
    cases sign with
    | positive => exact .inl rfl
    | negative => exact .inr rfl
  cases unpacked with
  | notANumber => exact iff_of_false Bool.false_ne_true (Ne.symm Bool.false_ne_true)
  | zero sign => exact absurd rfl accepted
  | infinity sign =>
    rcases signs sign with rfl | rfl
    · exact iff_of_true rfl rfl
    · exact absurd rfl accepted
  | finite sign mantissa exponent positive =>
    rcases signs sign with rfl | rfl
    · exact iff_of_true rfl rfl
    · exact absurd rfl accepted

/-- A finite time is zero seconds after itself. -/
theorem sub_self_of_isFinite {time : Float} (finite : time.isFinite = true) :
    time - time = 0.0 := by
  have cancels :
      UnpackedFloat.sub .binary64 time.toModel.unpack time.toModel.unpack =
        .zero .positive := by
    replace finite : time.toModel.unpack.isFinite = true := finite
    generalize time.toModel.unpack = unpacked at finite ⊢
    cases unpacked with
    | notANumber | infinity => cases finite
    | zero sign => cases sign <;> rfl
    | finite sign mantissa exponent positive =>
      have cancelled (count place : Int) :
          UnpackedFloat.normalize .binary64 (count - count) place .positive =
            .zero .positive := by
        rw [Int.sub_self]
        rfl
      exact cancelled _ _
  rw [zero_eq_pack]
  exact congrArg (Float.ofModel ∘ Float.Model.pack) cancels

/-! ## Decimals -/

theorem powersOfTen_proper :
    ∀ power ∈ Float.exactlyRepresentablePowersOfTen.toList,
      isProper power.toModel.unpack = true := by
  decide +kernel

/-- No decimal is read as the value that is no number. -/
theorem isNaN_ofScientific (digits : Nat) (negative : Bool) (scale : Nat) :
    (Float.ofScientific digits negative scale).isNaN = false := by
  rw [Float.ofScientific]
  split
  next short =>
    have listed : scale < Float.exactlyRepresentablePowersOfTen.size :=
      Nat.lt_succ_of_le short.2
    have proper :
        isProper (Float.exactlyRepresentablePowersOfTen[scale]).toModel.unpack = true :=
      powersOfTen_proper _ (by simp)
    have whole : digits.toUInt64.toFloat.toModel.unpack.isNaN = false :=
      isNaN_unpack_pack _ (isNaN_normalize ..)
    dsimp only
    split
    · exact isNaN_pack (isNaN_div _ whole proper)
    · exact isNaN_pack (isNaN_mul _ whole proper)
  · exact isNaN_pack (isNaN_scientific ..)

theorem isNaN_neg {value : Float} (regular : value.isNaN = false) : (-value).isNaN = false := by
  apply isNaN_pack
  replace regular : value.toModel.unpack.isNaN = false := regular
  generalize value.toModel.unpack = unpacked at regular ⊢
  cases unpacked with
  | notANumber => cases regular
  | infinity | zero | finite => rfl

theorem isNaN_ofDecimal (negative : Bool) (digits : List Nat) (scale : Int) :
    (ofDecimal negative digits scale).isNaN = false := by
  have signed (magnitude : Float) (regular : magnitude.isNaN = false) :
      (if negative then -magnitude else magnitude).isNaN = false := by
    split
    · exact isNaN_neg regular
    · exact regular
  rw [ofDecimal]
  apply signed
  split
  · decide +kernel
  · split
    · decide +kernel
    · exact isNaN_ofScientific ..

/-! ## Texts -/

/-- Whether a text spells the value that is no number: in letters of any case, perhaps with
blanks around and a sign in front. -/
def spellsNotANumber (text : Text) : Bool :=
  String.ofList ((splitSign (trimWhere isNumberBlank text.chars)).2.map Char.toLower) == "nan"

example : spellsNotANumber " +NaN " = true := by decide
example : spellsNotANumber "300" = false := by decide

theorem isNaN_of_readMagnitude?
    {negative : Bool}
    {chars : List Char}
    {value : Float}
    (read : readMagnitude? negative chars = some value) :
    value.isNaN = false := by
  rcases Option.bind_eq_some_iff.mp read with ⟨whole, _, rest⟩
  have last
      (fraction : List Nat)
      (tail : List Char)
      (found :
        (do
          let exponent ← exponentPart? tail
          if whole.isEmpty && fraction.isEmpty then
            none
          else
            pure (ofDecimal negative (whole ++ fraction) (exponent - fraction.length))) =
          some value) :
      value.isNaN = false := by
    rcases Option.bind_eq_some_iff.mp found with ⟨exponent, _, found⟩
    split at found
    · cases found
    · cases found
      exact isNaN_ofDecimal ..
  dsimp only at rest
  split at rest
  · rcases Option.bind_eq_some_iff.mp rest with ⟨fraction, _, found⟩
    exact last _ _ found
  · exact last _ _ rest

/-- A text is read as the value that is no number exactly if it spells it. -/
theorem isNaN_of_readReal
    {text : Text}
    {value : Float}
    (read : readReal text = .ok value) :
    value.isNaN = spellsNotANumber text := by
  rw [readReal] at read
  rw [spellsNotANumber]
  generalize splitSign (trimWhere isNumberBlank text.chars) = split at read ⊢
  rcases split with ⟨negative, body⟩
  dsimp only at read ⊢
  generalize String.ofList (body.map Char.toLower) = word at read ⊢
  split at read
  next infinite =>
    have other : (word == "nan") = false := by
      rw [Bool.or_eq_true, decide_eq_true_iff, decide_eq_true_iff] at infinite
      rcases infinite with rfl | rfl
      · rfl
      · rfl
    rw [other]
    cases read
    cases negative with
    | false => decide +kernel
    | true => decide +kernel
  · split at read
    next spelled =>
      cases read
      rw [beq_iff_eq.mpr spelled]
      decide +kernel
    next differs =>
      split at read
      next found =>
        cases read
        rw [isNaN_of_readMagnitude? found, beq_false_of_ne differs]
      · cases read

end RunnerFleet.Number
