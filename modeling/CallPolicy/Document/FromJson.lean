import CallPolicy.Document.Node

/-!
Contract: JSON values as parts of a document.

Owns: how each question is answered by a JSON value. A record may be an object or
the list of its field values.

Does not own: JSON text.
-/

namespace CallPolicy.Document

instance : Node Json where
  text? := Json.string?
  items?
    | .array items => some items
    | _ => none
  members?
    | .object members => some members
    | _ => none
  fields? names
    | .object members => fieldsOfMembers names members
    | .array items => fieldsOfItems names items
    | _ => none
  value? given := some given.canonical

end CallPolicy.Document
