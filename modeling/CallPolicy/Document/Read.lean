import CallPolicy.Document.Entries
import CallPolicy.Document.Format
import CallPolicy.Document.FromJson
import CallPolicy.Document.FromYaml
import CallPolicy.Json.Parser
import CallPolicy.PolicyError

/-!
Contract: policy documents as lists of entries.

Owns: reading of allowlists and denylists from text and from files.

Does not own: checks of the entries.
-/

namespace CallPolicy.Document

/-- The error for a text that is no document of its format. -/
def Format.malformed : Format → PolicyError
  | .json => .malformedJson
  | .yaml => .malformedYaml

/-- Reads a document. The same entries are read from either format. -/
def read {β : Type} (format : Format) (entries? : {node : Type} → [Node node] → node → Option β)
    (content : String) : Except PolicyError β :=
  let found :=
    match format with
    | .json => (Json.parse? content.toList).bind entries?
    | .yaml => (Yaml.Node.ofText? content.toList).bind entries?
  match found with
  | some entries => .ok entries
  | none => .error format.malformed

/-- The entries of an allowlist. -/
def readAllowlist (format : Format) (content : String) : Except PolicyError (List AllowEntry) :=
  read format (list? allowEntry?) content

/-- The entries of a denylist. -/
def readDenylist (format : Format) (content : String) : Except PolicyError (List DenyEntry) :=
  read format (list? denyEntry?) content

/-- The text of a policy file. -/
def contentOf (files : Files) (path : String) : Except PolicyError String :=
  match files.readText path with
  | .ok content => .ok content
  | .error failure => .error (.unreadable path failure)

/-- The entries of an allowlist in a file, whose name tells its format. -/
def loadAllowlist (files : Files) (path : String) : Except PolicyError (List AllowEntry) := do
  readAllowlist (Format.ofPath path) (← contentOf files path)

/-- The entries of a denylist in a file, whose name tells its format. -/
def loadDenylist (files : Files) (path : String) : Except PolicyError (List DenyEntry) := do
  readDenylist (Format.ofPath path) (← contentOf files path)

end CallPolicy.Document
