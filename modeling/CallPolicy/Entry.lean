import CallPolicy.Rule
import CallPolicy.Text.Blank
import CallPolicy.Text.Lowercase

/-!
Contract: what policy documents declare.

Owns: the entries of allowlists and denylists, and the keys under which
integrations and callers are stored.

Does not own: reading of documents and checks of what they declare.
-/

namespace CallPolicy

/-- The caller id of everyone without rules of their own. -/
def wildcardCaller : String := "*"

/-- The key of a caller. The empty id means the wildcard. -/
def callerKey (id : String) : String :=
  if id.isEmpty then wildcardCaller else id

/-- The key of an integration: its name in lower case, without white space at the
ends. -/
def integrationKey (name : String) : String :=
  Text.toLower (Text.trim name)

/-- A capability that a caller declares, with parameters. -/
structure CapabilityUse where
  name : String
  params : Keyed Json
deriving DecidableEq, Inhabited, Repr

/-- A caller of an allowlist. -/
structure AllowCaller where
  id : String
  capabilities : List CapabilityUse
  rules : List Rule
deriving DecidableEq, Inhabited, Repr

/-- The callers that an allowlist declares for one integration. -/
structure AllowEntry where
  integration : String
  callers : List AllowCaller
deriving DecidableEq, Inhabited, Repr

/-- A caller of a denylist. -/
structure DenyCaller where
  id : String
  rules : List Rule
deriving DecidableEq, Inhabited, Repr

/-- The callers that a denylist declares for one integration. -/
structure DenyEntry where
  integration : String
  callers : List DenyCaller
deriving DecidableEq, Inhabited, Repr

end CallPolicy
