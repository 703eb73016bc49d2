import CallPolicy.Text.Ascii
import CallPolicy.Text.Split

/-!
Contract: the formats of policy documents.

Owns: the formats, and the choice of one by the name of a file.

Does not own: reading of documents.
-/

namespace CallPolicy.Document

/-- A format of policy documents. -/
inductive Format where
  | json
  | yaml
deriving DecidableEq, Repr

/-- The last name in a path. A path that ends by climbing has none. -/
def fileName? (path : String) : Option (List Char) :=
  let names := (Text.splitOn '/' path.toList).filter fun name => !name.isEmpty && name != ['.']
  match names.getLast? with
  | none => none
  | some name => if name = ['.', '.'] then none else some name

/-- What follows the last dot of a file name. A dot at the very start of the name
begins no extension. -/
def extension? (name : List Char) : Option (List Char) :=
  match Text.cutAt '.' name.reverse with
  | none => none
  | some (after, before) => if before.isEmpty then none else some after.reverse

/-- The format of a file: YAML for the extensions `yaml` and `yml` in any case,
JSON for everything else. -/
def Format.ofPath (path : String) : Format :=
  match (fileName? path).bind extension? with
  | none => .json
  | some extension =>
      let lowered := String.ofList (extension.map Char.toLower)
      if lowered = "yaml" ∨ lowered = "yml" then .yaml else .json

end CallPolicy.Document
