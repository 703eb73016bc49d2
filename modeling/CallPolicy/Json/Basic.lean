import CallPolicy.Binary64.Basic
import CallPolicy.Keyed

/-!
Contract: JSON values.

Owns:
- numbers as exact integers of 64 bits or finite doubles, and their comparison;
- values whose objects keep the order and the repetitions of their members;
- the canonical value, whose objects are sorted and hold each name once.

Does not own: JSON text.
-/

namespace CallPolicy

/-- A number: an integer that fits 64 bits, with or without sign, or a double. -/
inductive Number where
  | integer (value : Int)
  | real (value : Binary64)
deriving DecidableEq, Repr

namespace Number

/-- The smallest integer that is kept as one. -/
def lowestInteger : Int := -0x8000000000000000

/-- The largest integer that is kept as one. -/
def highestInteger : Int := 0xFFFFFFFFFFFFFFFF

/-- The largest signed integer of 64 bits. -/
def highestSigned : Int := 0x7FFFFFFFFFFFFFFF

/-- The number as a signed integer, if it is one. -/
def signed? : Number → Option Int
  | .integer value => if value ≤ highestSigned then some value else none
  | .real _ => none

/-- The number as an integer without sign, if it is one. -/
def unsigned? : Number → Option Int
  | .integer value => if 0 ≤ value then some value else none
  | .real _ => none

/-- The number as a double. An integer is rounded. -/
def real? : Number → Option Binary64
  | .integer value => Binary64.ofInt? value
  | .real value => some value

/-- Whether two numbers count as equal: as signed integers if both are, else as integers
without sign if both are, else as doubles. -/
def same (left right : Number) : Bool :=
  match left.signed?, right.signed? with
  | some leftValue, some rightValue => leftValue == rightValue
  | _, _ =>
      match left.unsigned?, right.unsigned? with
      | some leftValue, some rightValue => leftValue == rightValue
      | _, _ =>
          match left.real?, right.real? with
          | some leftValue, some rightValue => leftValue.same rightValue
          | _, _ => false

end Number

/-- A JSON value. -/
inductive Json where
  | null
  | bool (value : Bool)
  | number (value : Number)
  | string (value : String)
  | array (items : List Json)
  | object (members : List (String × Json))
deriving Inhabited, Repr

namespace Json

mutual

private def decideEq : (left right : Json) → Decidable (left = right)
  | .null, .null => isTrue rfl
  | .bool left, .bool right => decidable_of_iff (left = right) (by simp)
  | .number left, .number right => decidable_of_iff (left = right) (by simp)
  | .string left, .string right => decidable_of_iff (left = right) (by simp)
  | .array left, .array right =>
      match decideItems left right with
      | isTrue same => isTrue (by rw [same])
      | isFalse different => isFalse (by simpa using different)
  | .object left, .object right =>
      match decideMembers left right with
      | isTrue same => isTrue (by rw [same])
      | isFalse different => isFalse (by simpa using different)
  | .null, .bool _ | .null, .number _ | .null, .string _ | .null, .array _ | .null, .object _
  | .bool _, .null | .bool _, .number _ | .bool _, .string _ | .bool _, .array _
  | .bool _, .object _ | .number _, .null | .number _, .bool _ | .number _, .string _
  | .number _, .array _ | .number _, .object _ | .string _, .null | .string _, .bool _
  | .string _, .number _ | .string _, .array _ | .string _, .object _ | .array _, .null
  | .array _, .bool _ | .array _, .number _ | .array _, .string _ | .array _, .object _
  | .object _, .null | .object _, .bool _ | .object _, .number _ | .object _, .string _
  | .object _, .array _ => isFalse (by simp)
termination_by structural left => left

private def decideItems : (left right : List Json) → Decidable (left = right)
  | [], [] => isTrue rfl
  | [], _ :: _ => isFalse (by simp)
  | _ :: _, [] => isFalse (by simp)
  | left :: lefts, right :: rights =>
      match decideEq left right with
      | isFalse different => isFalse (by simp [different])
      | isTrue same =>
          match decideItems lefts rights with
          | isFalse different => isFalse (by simp [different])
          | isTrue sameRest => isTrue (by rw [same, sameRest])
termination_by structural left => left

private def decideMembers : (left right : List (String × Json)) → Decidable (left = right)
  | [], [] => isTrue rfl
  | [], _ :: _ => isFalse (by simp)
  | _ :: _, [] => isFalse (by simp)
  | (leftName, left) :: lefts, (rightName, right) :: rights =>
      if sameName : leftName = rightName then
        match decideEq left right with
        | isFalse different => isFalse (by simp [different])
        | isTrue same =>
            match decideMembers lefts rights with
            | isFalse different => isFalse (by simp [different])
            | isTrue sameRest => isTrue (by rw [sameName, same, sameRest])
      else
        isFalse (by simp [sameName])
termination_by structural left => left

end

instance : DecidableEq Json := decideEq

/-- An integer as a value. -/
def ofInt (value : Int) : Json := .number (.integer value)

/-- A list of texts as a value. -/
def ofStrings (texts : List String) : Json := .array (texts.map .string)

/-- The text, if the value is one. -/
def string? : Json → Option String
  | .string value => some value
  | _ => none

mutual

/-- The value with the members of every object sorted by name. Of several
members with one name the last counts. -/
def canonical : Json → Json
  | .null => .null
  | .bool value => .bool value
  | .number value => .number value
  | .string value => .string value
  | .array items => .array (canonicalItems [] items)
  | .object members => .object (canonicalMembers Keyed.empty members).entries
termination_by structural value => value

/-- The canonical items, put after those that are done, newest first. -/
def canonicalItems (done : List Json) : List Json → List Json
  | [] => done.reverse
  | item :: rest => canonicalItems (canonical item :: done) rest
termination_by structural items => items

/-- The canonical members, put into the map of those that are done. -/
def canonicalMembers (done : Keyed Json) : List (String × Json) → Keyed Json
  | [] => done
  | (name, value) :: rest => canonicalMembers (done.insert name (canonical value)) rest
termination_by structural members => members

end

/-- The members of an object as a map of canonical values. -/
def membersOf (members : List (String × Json)) : Keyed Json :=
  canonicalMembers Keyed.empty members

end Json

end CallPolicy
