/-!
Contract: finite double-precision numbers, held exactly.

Owns:
- the representation, with one member per finite double;
- rounding of a ratio to the nearest double, ties to the even significand;
- product, quotient and conversion of integers, each rounded once.

Does not own: infinities, which no document can hold, and decimal text.
-/

namespace CallPolicy

/-- The significand of a normal double lies below this power of two and at or
above its half. -/
def significandBound : Nat := 0x20000000000000

/-- The exponent of the smallest double. -/
def lowestExponent : Int := -1074

/-- The exponent of the largest doubles. -/
def highestExponent : Int := 971

/-- A significand and an exponent that spell a double in the only canonical way:
the significand is full unless the exponent is the lowest. -/
def CanonicalDouble (significand : Nat) (exponent : Int) : Prop :=
  significand < significandBound ∧ lowestExponent ≤ exponent ∧ exponent ≤ highestExponent ∧
    (significandBound / 2 ≤ significand ∨ exponent = lowestExponent)

instance (significand : Nat) (exponent : Int) :
    Decidable (CanonicalDouble significand exponent) := by
  unfold CanonicalDouble
  infer_instance

/-- A finite double: the significand times two to the exponent, with a sign. -/
structure Binary64 where
  negative : Bool
  significand : Nat
  exponent : Int
  canonical : CanonicalDouble significand exponent
deriving DecidableEq

instance : Repr Binary64 where
  reprPrec number _ :=
    (if number.negative then "-" else "") ++ repr number.significand ++ " * 2 ^ " ++
      repr number.exponent

namespace Binary64

/-- Zero with the given sign. -/
def zero (negative : Bool) : Binary64 :=
  ⟨negative, 0, lowestExponent, by decide⟩

/-- Whether the number is zero, of either sign. -/
def isZero (number : Binary64) : Bool :=
  number.significand == 0

/-- Numerical equality: the two zeros are equal. -/
def same (left right : Binary64) : Bool :=
  left.significand == right.significand && left.exponent == right.exponent &&
    (left.negative == right.negative || left.isZero)

/-- The quotient rounded to the nearest integer, a half to the even one. -/
def roundHalfEven (numerator denominator : Nat) : Nat :=
  let quotient := numerator / denominator
  let remainder := numerator % denominator
  if 2 * remainder < denominator then quotient
  else if denominator < 2 * remainder then quotient + 1
  else if quotient % 2 = 0 then quotient
  else quotient + 1

/-- A ratio with the power of two moved into its numerator or denominator. -/
def scaled (numerator denominator : Nat) (power : Int) : Nat × Nat :=
  if 0 ≤ power then (numerator * Nat.pow 2 power.toNat, denominator)
  else (numerator, denominator * Nat.pow 2 (-power).toNat)

/-- The power of two at or below a positive ratio. -/
def floorLog2 (numerator denominator : Nat) : Int :=
  let guess : Int := (Nat.log2 numerator : Int) - (Nat.log2 denominator : Int)
  let ratio := scaled numerator denominator (-guess)
  if ratio.1 < ratio.2 then guess - 1 else guess

/-- The nearest double to a ratio with a positive denominator, ties to the even
significand; nothing when that is beyond the largest double. -/
def roundRatio (negative : Bool) (numerator denominator : Nat) : Option Binary64 :=
  if numerator = 0 then some (zero negative)
  else
    let exponent := max lowestExponent (floorLog2 numerator denominator - 52)
    let ratio := scaled numerator denominator (-exponent)
    let significand := roundHalfEven ratio.1 ratio.2
    let carried : Nat × Int :=
      if significand = significandBound then (significandBound / 2, exponent + 1)
      else (significand, exponent)
    if canonical : CanonicalDouble carried.1 carried.2 then
      some ⟨negative, carried.1, carried.2, canonical⟩
    else
      none

/-- The nearest double to an integer. -/
def ofInt? (value : Int) : Option Binary64 :=
  roundRatio (value < 0) value.natAbs 1

/-- The rounded product. -/
def mul? (left right : Binary64) : Option Binary64 :=
  let ratio := scaled (left.significand * right.significand) 1 (left.exponent + right.exponent)
  roundRatio (left.negative != right.negative) ratio.1 ratio.2

/-- The rounded quotient by a number other than zero. -/
def div? (left right : Binary64) : Option Binary64 :=
  let ratio := scaled left.significand right.significand (left.exponent - right.exponent)
  roundRatio (left.negative != right.negative) ratio.1 ratio.2

end Binary64

end CallPolicy
