import CallPolicy.Binary64.Decimal
import CallPolicy.Json.Basic
import CallPolicy.Text.Split

/-!
Contract: the numbers of JSON text.

Owns:
- the grammar of a number;
- the value that a number text stands for;
- the text that writes a number.

Does not own: where a number begins and ends inside a document.
-/

namespace CallPolicy

/-- The parts of a number text. Digits are values below ten in reading order. -/
structure NumberText where
  negative : Bool
  whole : List Nat
  fraction : Option (List Nat)
  exponent : Option (Bool × List Nat)
deriving DecidableEq, Repr

namespace NumberText

/-- The value of a decimal digit. -/
def digit? (char : Char) : Option Nat :=
  if char.isDigit then some (char.toNat - '0'.toNat) else none

/-- The values of a text of digits. -/
def digits? (text : List Char) : Option (List Nat) :=
  text.mapM digit?

/-- At least one digit. -/
def someDigits? (text : List Char) : Option (List Nat) :=
  if text.isEmpty then none else digits? text

/-- The whole part: one zero, or digits that do not begin with zero. -/
def whole? (text : List Char) : Option (List Nat) :=
  match text with
  | ['0'] => some [0]
  | '0' :: _ => none
  | _ => someDigits? text

/-- The exponent after its letter: an optional sign, which is true for a minus,
and digits. -/
def exponent? (text : List Char) : Option (Bool × List Nat) :=
  match text with
  | '+' :: rest => (someDigits? rest).map fun digits => (false, digits)
  | '-' :: rest => (someDigits? rest).map fun digits => (true, digits)
  | _ => (someDigits? text).map fun digits => (false, digits)

/-- Reads a whole number text. -/
def ofChars? (text : List Char) : Option NumberText := do
  let (negative, unsigned) :=
    match text with
    | '-' :: rest => (true, rest)
    | _ => (false, text)
  let (mantissa, exponent) ←
    match Text.cutAt 'e' (unsigned.map fun char => if char = 'E' then 'e' else char) with
    | none => some (unsigned, none)
    | some (mantissa, exponent) => (exponent? exponent).map fun read => (mantissa, some read)
  match Text.cutAt '.' mantissa with
  | none => some ⟨negative, ← whole? mantissa, none, exponent⟩
  | some (whole, fraction) =>
      some ⟨negative, ← whole? whole, some (← someDigits? fraction), exponent⟩

/-- The largest significand that is collected from the digits of a number. -/
def significandLimit : Nat := 0xFFFFFFFFFFFFFFFF

/-- Collects digits as long as the significand stays within its limit. The result
is the significand and the number of digits that were left out. -/
def collect (significand : Nat) : List Nat → Nat × Nat
  | [] => (significand, 0)
  | digit :: rest =>
      if significand * 10 + digit ≤ significandLimit then
        collect (significand * 10 + digit) rest
      else
        (significand, rest.length + 1)

/-- The number that digits spell. -/
def naturalOf (digits : List Nat) : Nat :=
  digits.foldl (fun value digit => value * 10 + digit) 0

/-- Divides by 1e308 until the exponent is within reach of one power of ten. -/
private def shrink : Nat → Binary64 → Int → Option (Binary64 × Int)
  | 0, number, exponent => some (number, exponent)
  | fuel + 1, number, exponent =>
      if number.isZero ∨ -308 ≤ exponent then some (number, exponent)
      else do
        let largest ← Binary64.ofDecimal false 1 308
        shrink fuel (← number.div? largest) (exponent + 308)

/-- The double that a significand and a power of ten stand for, computed with one
rounding for the significand, one for the power and one for their product or
quotient. Nothing when it is beyond the largest double. -/
def real? (negative : Bool) (significand : Nat) (exponent : Int) : Option Binary64 := do
  let start ← Binary64.roundRatio negative significand 1
  -- A significand of 64 bits is zero after two divisions by 1e308.
  let (number, power) ← shrink 4 start exponent
  if number.isZero then some number
  else if 308 < power then none
  else if 0 ≤ power then
    number.mul? (← Binary64.ofDecimal false 1 power)
  else
    number.div? (← Binary64.ofDecimal false 1 (-power))

/-- The largest exponent that is read as a number. -/
def exponentLimit : Nat := 0x7FFFFFFF

/-- The value of a number text: an integer when it has neither fraction nor
exponent and fits 64 bits, otherwise a double. Minus zero is a double. -/
def value? (text : NumberText) : Option Number :=
  let (kept, dropped) := collect 0 text.whole
  let fits :=
    dropped = 0 ∧ text.fraction = none ∧ text.exponent = none ∧
      (text.negative = false ∨ (0 < kept ∧ kept ≤ 0x8000000000000000))
  if fits then
    some (.integer (if text.negative then -(kept : Int) else kept))
  else
    let fraction := text.fraction.getD []
    let (significand, leftOut) := collect kept fraction
    let shift : Int := (dropped : Int) - ((fraction.length - leftOut : Nat) : Int)
    match text.exponent with
    | none => (real? text.negative significand shift).map .real
    | some (below, digits) =>
        let power := naturalOf digits
        if exponentLimit < power then
          if significand = 0 ∨ below then some (.real (Binary64.zero text.negative)) else none
        else
          let exponent : Int := if below then shift - power else shift + power
          (real? text.negative significand exponent).map .real

end NumberText

/-- The text of a number: an integer in decimal, a double as its shortest
decimal. -/
def Number.render : Number → String
  | .integer value => toString value
  | .real value => value.render

end CallPolicy
