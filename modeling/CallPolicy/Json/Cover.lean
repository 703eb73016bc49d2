import CallPolicy.Json.Basic

/-!
Contract: when a value holds everything that another one asks for.

Owns: the comparison of a received value with a wanted one, through objects and
arrays of any depth.

Does not own: where the two values come from.
-/

namespace CallPolicy.Json

mutual

/-- Whether `have` holds what is wanted. An object needs every wanted member, an
array some item for every wanted item, a number the same number; all else must be
equal. -/
def covers (given : Json) : Json → Bool
  | .null =>
      match given with
      | .null => true
      | _ => false
  | .bool wanted =>
      match given with
      | .bool value => value == wanted
      | _ => false
  | .number wanted =>
      match given with
      | .number value => value.same wanted
      | _ => false
  | .string wanted =>
      match given with
      | .string value => value == wanted
      | _ => false
  | .array wanted =>
      match given with
      | .array items => coversItems items wanted
      | _ => false
  | .object wanted =>
      match given with
      | .object members => coversMembers members wanted
      | _ => false
termination_by structural wanted => wanted

/-- Whether each wanted item is held by some item. -/
def coversItems (items : List Json) : List Json → Bool
  | [] => true
  | wanted :: rest => items.any (fun item => covers item wanted) && coversItems items rest
termination_by structural wanted => wanted

/-- Whether each wanted member is held by the member of the same name. -/
def coversMembers (members : List (String × Json)) : List (String × Json) → Bool
  | [] => true
  | (name, wanted) :: rest =>
      (match lookupEntry name members with
        | some value => covers value wanted
        | none => false) && coversMembers members rest
termination_by structural wanted => wanted

end

end CallPolicy.Json
