import CallPolicy.Binary64.Basic

/-!
Contract: decimal text for finite doubles.

Owns:
- the double nearest to a decimal, correctly rounded;
- the shortest decimal that reads back as the double, the nearest of those;
- the text that writes this decimal with a point or with an exponent.

Does not own: the grammar of numbers in any document format.
-/

namespace CallPolicy.Binary64

/-- The double nearest to `digits * 10 ^ exponent`; nothing beyond the largest.

Exponents far outside the range of doubles are settled by the number of digits. -/
def ofDecimal (negative : Bool) (digits : Nat) (exponent : Int) : Option Binary64 :=
  if digits = 0 then some (zero negative)
  else
    let places : Int := (Nat.toDigits 10 digits).length
    if 400 < places + exponent then none
    else if places + exponent < -400 then some (zero negative)
    else if 0 ≤ exponent then roundRatio negative (digits * Nat.pow 10 exponent.toNat) 1
    else roundRatio negative digits (Nat.pow 10 (-exponent).toNat)

/-- A positive decimal: `digits * 10 ^ exponent`. -/
structure Decimal where
  digits : Nat
  exponent : Int
deriving DecidableEq, Repr

/-- How many times a ratio below one is multiplied by ten before it reaches one. -/
private def leadingZeros : Nat → Nat → Nat → Nat
  | 0, _, _ => 0
  | fuel + 1, numerator, denominator =>
      if denominator ≤ numerator then 0
      else leadingZeros fuel (numerator * 10) denominator + 1

/-- The place before which the first digit of a positive ratio stands: 1 for a
ratio from one to below ten. -/
def firstPlace (numerator denominator : Nat) : Int :=
  if denominator ≤ numerator then
    ((Nat.toDigits 10 (numerator / denominator)).length : Int)
  else
    1 - (leadingZeros 400 numerator denominator : Int)

/-- The ratio divided by a power of ten. -/
def perPower (numerator denominator : Nat) (power : Int) : Nat × Nat :=
  if 0 ≤ power then (numerator, denominator * Nat.pow 10 power.toNat)
  else (numerator * Nat.pow 10 (-power).toNat, denominator)

/-- The multiple of a power of ten that is nearest to the number, among its two
neighbours on that grid, if one of them rounds to the number.

In quarters of the last binary place the numbers that round to this one reach
two below and two above it, or one below where the binary places get finer; the
ends belong to them when the significand is even. -/
def nearestOnGrid (number : Binary64) (power : Int) : Option Decimal :=
  let quarters := number.significand * 4
  let finer := number.significand = significandBound / 2 ∧ number.exponent ≠ lowestExponent
  let low := quarters - (if finer then 1 else 2)
  let high := quarters + 2
  let closed := number.significand % 2 = 0
  let unit := number.exponent - 2
  let value := scaled quarters 1 unit
  let grid := perPower value.1 value.2 power
  let below := grid.1 / grid.2
  let inside (multiple : Nat) : Bool :=
    let lowRatio := scaled low 1 unit
    let highRatio := scaled high 1 unit
    let lowGrid := perPower lowRatio.1 lowRatio.2 power
    let highGrid := perPower highRatio.1 highRatio.2 power
    if closed then
      lowGrid.1 ≤ multiple * lowGrid.2 && multiple * highGrid.2 ≤ highGrid.1
    else
      lowGrid.1 < multiple * lowGrid.2 && multiple * highGrid.2 < highGrid.1
  let lowerFits := inside below
  let upperFits := inside (below + 1)
  if lowerFits && upperFits then some ⟨roundHalfEven grid.1 grid.2, power⟩
  else if lowerFits then some ⟨below, power⟩
  else if upperFits then some ⟨below + 1, power⟩
  else none

/-- The same decimal without zeros at the end of its digits. -/
private def withoutZeros : Nat → Decimal → Decimal
  | 0, decimal => decimal
  | fuel + 1, decimal =>
      if decimal.digits % 10 = 0 then
        withoutZeros fuel ⟨decimal.digits / 10, decimal.exponent + 1⟩
      else
        decimal

/-- Tries grids with one digit more at a time. -/
private def shortestFrom (number : Binary64) (place : Int) : Nat → Nat → Decimal
  | 0, count => ⟨0, place - count⟩
  | fuel + 1, count =>
      match nearestOnGrid number (place - count) with
      | some decimal => withoutZeros count decimal
      | none => shortestFrom number place fuel (count + 1)

/-- The shortest decimal that reads back as a number other than zero, without
its sign; of several the nearest. Seventeen digits always suffice. -/
def shortest (number : Binary64) : Decimal :=
  let value := scaled number.significand 1 number.exponent
  shortestFrom number (firstPlace value.1 value.2) 17 1

/-- The text of a positive decimal. Between 1e-5 and 1e16 it is written with a
point and at least one digit on each side, outside with an exponent. -/
def Decimal.render (decimal : Decimal) : String :=
  let digits := Nat.toDigits 10 decimal.digits
  let place : Int := digits.length + decimal.exponent
  if 0 ≤ decimal.exponent ∧ place ≤ 16 then
    String.ofList (digits ++ List.replicate decimal.exponent.toNat '0' ++ ['.', '0'])
  else if 0 < place ∧ place ≤ 16 then
    String.ofList (digits.take place.toNat ++ '.' :: digits.drop place.toNat)
  else if -5 < place ∧ place ≤ 0 then
    String.ofList (['0', '.'] ++ List.replicate (-place).toNat '0' ++ digits)
  else
    let tail := if digits.length = 1 then [] else '.' :: digits.drop 1
    String.ofList (digits.take 1 ++ tail) ++ "e" ++ toString (place - 1)

/-- The text of a double: its shortest decimal, with a minus for a negative one. -/
def render (number : Binary64) : String :=
  let sign := if number.negative then "-" else ""
  if number.isZero then sign ++ "0.0" else sign ++ (shortest number).render

end CallPolicy.Binary64
