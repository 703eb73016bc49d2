import CallPolicy.Document.Node
import CallPolicy.Yaml.Value

/-!
Contract: YAML nodes as parts of a document.

Owns: how each question is answered by a YAML node. A scalar answers as its text
whatever it looks like, and nothing at all answers as an empty list, map or record.

Does not own: YAML text.
-/

namespace CallPolicy.Document

/-- Members whose names are the texts of scalars. -/
def namedMembers? (members : List (Yaml.Node × Yaml.Node)) :
    Option (List (String × Yaml.Node)) :=
  members.mapM fun member => member.1.text?.map fun name => (name, member.2)

/-- The members of a mapping, or of nothing. -/
def membersOfNode? (node : Yaml.Node) : Option (List (String × Yaml.Node)) :=
  match node with
  | .mapping _ members => namedMembers? members
  | _ => if node.isNothing then some [] else none

instance : Node Yaml.Node where
  text? := Yaml.Node.text?
  items? node :=
    match node with
    | .sequence _ items => some items
    | _ => if node.isNothing then some [] else none
  members? := membersOfNode?
  fields? names node := (membersOfNode? node).bind (fieldsOfMembers names)
  value? := Yaml.Node.value?

end CallPolicy.Document
