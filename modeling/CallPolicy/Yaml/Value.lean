import CallPolicy.Binary64.Decimal
import CallPolicy.Json.NumberText
import CallPolicy.Text.Utf8
import CallPolicy.Yaml.Node

/-!
Contract: the values that YAML nodes stand for.

Owns: which plain scalars are null, truth values, integers and other numbers, what
a tag changes about that, and the value of a whole tree.

Does not own: records, whose parts are read one by one.
-/

namespace CallPolicy.Yaml

namespace Scalar

/-- The spellings of null, beside nothing at all. -/
def nullWords : List String := ["null", "Null", "NULL", "~"]

/-- The spellings of true. -/
def trueWords : List String := ["true", "True", "TRUE"]

/-- The spellings of false. -/
def falseWords : List String := ["false", "False", "FALSE"]

/-- The truth value that a text spells. -/
def bool? (text : String) : Option Bool :=
  if trueWords.contains text then some true
  else if falseWords.contains text then some false
  else none

/-- A text without a sign at its start. -/
def withoutSign : List Char → List Char
  | '+' :: rest | '-' :: rest => rest
  | text => text

/-- Whether a text consists of digits with a zero in front of others. Such a text
is no number. -/
def isPadded (text : List Char) : Bool :=
  match withoutSign text with
  | '0' :: second :: rest => (second :: rest).all Char.isDigit
  | _ => false

/-- The digits of a base from two to sixteen, at least one, as a number. -/
def natural? (base : Nat) (text : List Char) : Option Nat :=
  if text.isEmpty then none
  else
    text.foldlM (fun value char => do
      let digit ← Text.Ascii.hexValue? char.toNat
      if digit < base then some (value * base + digit) else none) 0

/-- The bases that are written in front of digits. -/
def bases : List (Char × Nat) := [('x', 16), ('o', 8), ('b', 2)]

/-- A number without sign whose base is written in front of it. -/
def based? : List Char → Option Nat
  | '0' :: letter :: digits =>
      (bases.find? fun entry => entry.1 == letter).bind fun entry => natural? entry.2 digits
  | _ => none

/-- The integer that a text spells, of any size: an optional sign, a base if there
is one, and digits. -/
def integer? (text : List Char) : Option Int :=
  if isPadded text then none
  else
    let magnitude (digits : List Char) : Option Nat := (based? digits).or (natural? 10 digits)
    match text with
    | '-' :: digits => (magnitude digits).map fun value => -(value : Int)
    | '+' :: digits => (magnitude digits).map fun value => (value : Int)
    | digits => (magnitude digits).map fun value => (value : Int)

/-- Whether an integer can be held. -/
def fits (value : Int) : Bool :=
  Number.lowestInteger ≤ value && value ≤ Number.highestInteger

/-- Whether an integer counts as one. Beyond these bounds its text is read like that
of a number with decimals. -/
def isInteger (value : Int) : Bool :=
  -0x80000000000000000000000000000000 ≤ value && value ≤ 0xFFFFFFFFFFFFFFFFFFFFFFFFFFFFFFFF

/-- What becomes of a text that may spell an integer. -/
inductive IntegerReading where
  | held (value : Int)
  | tooLarge
  | otherText
deriving DecidableEq, Repr

/-- The digits before and after the point of a number, at least one in all. -/
def mantissa? (text : List Char) : Option (List Nat × List Nat) := do
  let (whole, fraction) := (Text.cutAt '.' text).getD (text, [])
  if whole.isEmpty && fraction.isEmpty then none
  else some (← NumberText.digits? whole, ← NumberText.digits? fraction)

/-- The exponent of a number: an optional sign and at least one digit. -/
def exponent? (text : List Char) : Option Int :=
  let digits := withoutSign text
  if digits.isEmpty then none
  else
    (NumberText.digits? digits).map fun values =>
      let value : Int := NumberText.naturalOf values
      if text.head? = some '-' then -value else value

/-- The double that a decimal without sign spells, if there is one near it. -/
def decimal? (negative : Bool) (text : List Char) : Option Binary64 := do
  let lowered := text.map fun char => if char = 'E' then 'e' else char
  let (mantissa, power) ←
    match Text.cutAt 'e' lowered with
    | none => some (text, 0)
    | some (before, after) => (exponent? after).map fun power => (before, power)
  let (whole, fraction) ← mantissa? mantissa
  Binary64.ofDecimal negative (NumberText.naturalOf (whole ++ fraction))
    (power - fraction.length)

/-- The spellings of infinity. -/
def infinityWords : List String := [".inf", ".Inf", ".INF"]

/-- The spellings of what is no number at all. -/
def nanWords : List String := [".nan", ".NaN", ".NAN"]

/-- Whether a text spells a number that has no decimals. -/
def isUnbounded (text : List Char) : Bool :=
  let spelled := String.ofList text
  let unsigned := String.ofList (withoutSign text)
  nanWords.contains spelled || infinityWords.contains unsigned

/-- The value of a number that is no integer. One without decimals is null. -/
def real? (text : List Char) : Option Json :=
  if isUnbounded text then some .null
  else
    match text with
    | '-' :: rest => (decimal? true rest).map fun value => .number (.real value)
    | '+' :: rest => (decimal? false rest).map fun value => .number (.real value)
    | rest => (decimal? false rest).map fun value => .number (.real value)

/-- Reads a text as an integer. -/
def readInteger (text : List Char) : IntegerReading :=
  match integer? text with
  | none => .otherText
  | some value =>
      if fits value then .held value
      else if isInteger value then .tooLarge
      else .otherText

/-- The value of a plain scalar without a tag. An integer that counts as one but
cannot be held has none. -/
def plainValue? (text : String) : Option Json :=
  if text.isEmpty || nullWords.contains text then some .null
  else
    match bool? text with
    | some value => some (.bool value)
    | none =>
        let chars := text.toList
        match readInteger chars with
        | .held value => some (Json.ofInt value)
        | .tooLarge => none
        | .otherText =>
            if isPadded chars then some (.string text)
            else some ((real? chars).getD (.string text))

/-- The types that a tag can ask for. -/
inductive Kind where
  | bool
  | int
  | float
  | null
  | other
deriving DecidableEq, Repr

/-- The tags of the types, after what they have in common. -/
def kindNames : List (String × Kind) :=
  [("bool", .bool), ("int", .int), ("float", .float), ("null", .null)]

/-- What the tags of the types have in common. -/
def kindStart : String := "tag:yaml.org,2002:"

/-- The type that a tag asks for. -/
def Kind.ofTag (tag : List UInt8) : Kind :=
  match kindNames.find? fun entry => Text.Utf8.bytes (kindStart ++ entry.1) == tag with
  | some entry => entry.2
  | none => .other

/-- The value of a scalar that has to be of a type. -/
def kindValue? (kind : Kind) (text : String) : Option Json :=
  match kind with
  | .bool => (bool? text).map .bool
  | .int =>
      match readInteger text.toList with
      | .held value => some (Json.ofInt value)
      | _ => none
  | .float => real? text.toList
  | .null => if nullWords.contains text then some .null else none
  | .other => some (.string text)

/-- The exclamation mark that private tags begin with. -/
def privateMark : UInt8 := 0x21

/-- Whether a tag is private to a document. Nothing is known about the values of
such a tag. -/
def isPrivate : Option (List UInt8) → Bool
  | some (mark :: rest) => mark == privateMark && (Text.Utf8.decode? rest).isSome
  | _ => false

/-- Whether a tag says nothing about a scalar: there is none, or one that begins like
a private tag but whose name is no text. -/
def isUntyped : Option (List UInt8) → Bool
  | none => true
  | some bytes => bytes.head? == some privateMark && !isPrivate (some bytes)

/-- The value of a scalar. Where the tag says nothing, the quoted ones are texts. -/
def value? (tag : Option (List UInt8)) (plain : Bool) (text : String) : Option Json :=
  if isPrivate tag then none
  else if isUntyped tag then if plain then plainValue? text else some (.string text)
  else kindValue? (Kind.ofTag (tag.getD [])) text

end Scalar

namespace Node

/-- The text of a scalar, exactly as it was written between its quotes or marks. -/
def text? : Node → Option String
  | .scalar _ _ text => some text
  | _ => none

/-- Whether a node is written as nothing at all. -/
def isNothing : Node → Bool
  | .nothing => true
  | .scalar _ plain text => plain && text.isEmpty
  | _ => false

mutual

/-- The value of a node. The names of members are texts, and of several members
with one name the last counts. -/
def value? : Node → Option Json
  | .nothing => some .null
  | .scalar tag plain text => Scalar.value? tag plain text
  | .sequence tag items =>
      if Scalar.isPrivate tag then none
      else (valuesOf? [] items).map .array
  | .mapping tag members =>
      if Scalar.isPrivate tag then none
      else (memberValues? Keyed.empty members).map fun map => .object map.entries
termination_by structural node => node

/-- The values of items, put after those that are done, newest first. -/
def valuesOf? (done : List Json) : List Node → Option (List Json)
  | [] => some done.reverse
  | item :: rest =>
      match value? item with
      | some value => valuesOf? (value :: done) rest
      | none => none
termination_by structural items => items

/-- The values of members, put into the map of those that are done. -/
def memberValues? (done : Keyed Json) : List (Node × Node) → Option (Keyed Json)
  | [] => some done
  | (name, node) :: rest =>
      match text? name, value? node with
      | some name, some value => memberValues? (done.insert name value) rest
      | _, _ => none
termination_by structural members => members

end

end Node

end CallPolicy.Yaml
