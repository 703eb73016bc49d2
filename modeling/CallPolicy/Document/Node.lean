import CallPolicy.Json.Basic

/-!
Contract: what a document format has to offer so that entries can be read from it.

Owns: the questions that are put to the parts of a document, and the rule by which
named members become the fields of a record.

Does not own: the answers of any format.
-/

namespace CallPolicy.Document

universe u

/-- A part of a document that can be read in the ways that entries need. Each way
gives nothing when the part does not fit. -/
class Node (node : Type) where
  /-- A text. -/
  text? : node → Option String
  /-- A list. -/
  items? : node → Option (List node)
  /-- A map from free names; of several members with one name all are given. -/
  members? : node → Option (List (String × node))
  /-- A record with these field names: what is given for each of them, in their
  order. -/
  fields? : List String → node → Option (List (Option node))
  /-- A free value. -/
  value? : node → Option Json

/-- Whether every name is a field and none is repeated. -/
def fitsFields (names : List String) : List String → Bool
  | [] => true
  | name :: rest => names.contains name && !rest.contains name && fitsFields names rest

/-- The fields of a record that is given by named members. Unknown and repeated
names are refused. -/
def fieldsOfMembers {node : Type} (names : List String) (members : List (String × node)) :
    Option (List (Option node)) :=
  if fitsFields names (members.map Prod.fst) then
    some (names.map fun name => lookupEntry name members)
  else
    none

/-- The fields of a record that is given by its values in order. Fields at the end
may be left out. -/
def fieldsOfItems {node : Type} (names : List String) (items : List node) :
    Option (List (Option node)) :=
  if items.length ≤ names.length then
    some (items.map some ++ List.replicate (names.length - items.length) none)
  else
    none

end CallPolicy.Document
