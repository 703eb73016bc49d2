import CallPolicy.Binary64.Decimal
import CallPolicy.Text.Ascii
import CallPolicy.Text.Split
import CallPolicy.Toml.Basic

/-!
Contract: TOML values without quotes and brackets.

Owns: truth values, integers, numbers with decimals, and points in time.

Does not own: where such a value may stand.
-/

namespace CallPolicy.Toml.Word

/-- The characters of which such values consist. -/
def isWordChar (char : Char) : Bool :=
  char.isAlphanum || char == '_' || char == '+' || char == '-' || char == '.' || char == ':'

/-- Whether a text consists of digits, of which two neighbours may be separated by an
underscore. -/
def isGrouped (isDigit : Char → Bool) : List Char → Bool
  | [] => false
  | [last] => isDigit last
  | char :: '_' :: rest => isDigit char && isGrouped isDigit rest
  | char :: rest => isDigit char && isGrouped isDigit rest

/-- The number that grouped digits spell. -/
def grouped? (base : Nat) (text : List Char) : Option Nat :=
  let isDigit (char : Char) : Bool :=
    (Text.Ascii.hexValue? char.toNat).any fun digit => digit < base
  if isGrouped isDigit text then
    some (text.foldl
      (fun value char =>
        match Text.Ascii.hexValue? char.toNat with
        | some digit => value * base + digit
        | none => value) 0)
  else none

/-- A number in decimal: a zero alone, or digits that do not begin with one. -/
def decimal? (text : List Char) : Option Nat :=
  match text with
  | '0' :: _ :: _ => none
  | _ => grouped? 10 text

/-- The least integer. -/
def lowest : Int := -0x8000000000000000

/-- The greatest integer. -/
def highest : Int := 0x7FFFFFFFFFFFFFFF

/-- The integer that a text spells: one in decimal, with an optional sign, or one in
another base without. -/
def integer? (text : List Char) : Option Int := do
  let value : Int ←
    match text with
    | '0' :: 'x' :: digits => (grouped? 16 digits).map Int.ofNat
    | '0' :: 'o' :: digits => (grouped? 8 digits).map Int.ofNat
    | '0' :: 'b' :: digits => (grouped? 2 digits).map Int.ofNat
    | '+' :: digits => (decimal? digits).map Int.ofNat
    | '-' :: digits => (decimal? digits).map fun value => -(value : Int)
    | digits => (decimal? digits).map Int.ofNat
  if lowest ≤ value ∧ value ≤ highest then some value else none

/-- A text without a sign at its start. -/
def unsigned : List Char → List Char
  | '+' :: rest | '-' :: rest => rest
  | text => text

/-- The digits before and after the point of a number, as one integer, and how many
of them stand after it. -/
def mantissa? (text : List Char) : Option (Nat × Nat) :=
  match Text.cutAt '.' text with
  | none => (decimal? text).map fun whole => (whole, 0)
  | some (before, after) => do
      let whole ← decimal? before
      let fraction ← grouped? 10 after
      let places := after.countP Char.isDigit
      some (whole * Nat.pow 10 places + fraction, places)

/-- The exponent of a number: an optional sign and digits. -/
def exponent? (text : List Char) : Option Int :=
  (grouped? 10 (unsigned text)).map fun value =>
    if text.head? = some '-' then -(value : Int) else value

/-- The integer and the power of ten whose product a text without sign spells: an
integer followed by a fraction, an exponent or both. -/
def scientific? (text : List Char) : Option (Nat × Int) := do
  let lowered := text.map fun char => if char = 'E' then 'e' else char
  match Text.cutAt 'e' lowered with
  | some (before, after) =>
      let (digits, places) ← mantissa? before
      let power ← exponent? after
      some (digits, power - places)
  | none =>
      if text.contains '.' then
        (mantissa? text).map fun found => (found.1, -(found.2 : Int))
      else none

/-- The names of infinity and of what is no number, without a sign. -/
def realWords : List (List Char) :=
  [['i', 'n', 'f'], ['n', 'a', 'n']]

/-- Whether a text spells a number with decimals. A number beyond the largest double
is none, but one below the least is negative infinity. -/
def isReal (text : List Char) : Bool :=
  realWords.contains (unsigned text) ||
    match scientific? (unsigned text) with
    | some (digits, power) =>
        text.head? == some '-' || (Binary64.ofDecimal false digits power).isSome
    | none => false

/-- The number that exactly so many digits spell. -/
def fixed? (width : Nat) (text : List Char) : Option Nat :=
  if text.length = width && text.all Char.isDigit then
    some (text.foldl (fun value digit => value * 10 + (digit.toNat - '0'.toNat)) 0)
  else none

/-- The number of days of a month. -/
def daysIn (year month : Nat) : Nat :=
  if month = 2 then
    if year % 4 = 0 ∧ (year % 100 ≠ 0 ∨ year % 400 = 0) then 29 else 28
  else if [4, 6, 9, 11].contains month then 30
  else 31

/-- Whether a text is a date. -/
def isDate (text : List Char) : Bool :=
  match Text.splitOn '-' text with
  | [year, month, day] =>
      match fixed? 4 year, fixed? 2 month, fixed? 2 day with
      | some year, some month, some day =>
          1 ≤ month && month ≤ 12 && 1 ≤ day && day ≤ daysIn year month
      | _, _, _ => false
  | _ => false

/-- Whether two digits spell a number up to a greatest one. -/
def isWithin (greatest : Nat) (text : List Char) : Bool :=
  (fixed? 2 text).any fun value => value ≤ greatest

/-- Whether a text is a second, with or without a fraction. -/
def isSecond (text : List Char) : Bool :=
  match Text.cutAt '.' text with
  | some (whole, fraction) =>
      isWithin 60 whole && !fraction.isEmpty && fraction.all Char.isDigit
  | none => isWithin 60 text

/-- Whether a text is a time of day. -/
def isTime (text : List Char) : Bool :=
  match Text.splitOn ':' text with
  | [hour, minute, second] => isWithin 23 hour && isWithin 59 minute && isSecond second
  | _ => false

/-- Whether a text is the distance of a time from the universal one. -/
def isOffset (text : List Char) : Bool :=
  match text with
  | ['Z'] | ['z'] => true
  | '+' :: rest | '-' :: rest =>
      match Text.splitOn ':' rest with
      | [hour, minute] => isWithin 23 hour && isWithin 59 minute
      | _ => false
  | _ => false

/-- Whether a text is a time of day with or without an offset. -/
def isZonedTime (text : List Char) : Bool :=
  let isTimeChar (char : Char) : Bool := char.isDigit || char == ':' || char == '.'
  let offset := text.dropWhile isTimeChar
  isTime (text.takeWhile isTimeChar) && (offset.isEmpty || isOffset offset)

/-- Whether a text is a point in time: a date, a time of day, or both. -/
def isMoment (text : List Char) : Bool :=
  isDate text || isTime text ||
    (isDate (text.take 10) &&
      match text.drop 10 with
      | 'T' :: time | 't' :: time | ' ' :: time => isZonedTime time
      | _ => false)

/-- The value that a text spells. -/
def ofChars? (text : List Char) : Option Toml :=
  if text = "true".toList then some (.bool true)
  else if text = "false".toList then some (.bool false)
  else
    match integer? text with
    | some value => some (.integer value)
    | none =>
        if isReal text then some (.real (String.ofList text))
        else if isMoment text then some (.moment (String.ofList text))
        else none

/-- A value at the start of a text. A date may be followed by a space and a time. -/
def scan (source : List Char) : Option (Toml × List Char) :=
  let first := source.takeWhile isWordChar
  let rest := source.drop first.length
  let continued :=
    match rest with
    | ' ' :: digit :: _ => isDate first && digit.isDigit
    | _ => false
  if continued then
    let second := (rest.drop 1).takeWhile isWordChar
    (ofChars? (first ++ ' ' :: second)).map fun value => (value, rest.drop (second.length + 1))
  else
    (ofChars? first).map fun value => (value, rest)

end CallPolicy.Toml.Word
