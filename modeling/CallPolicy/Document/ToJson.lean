import CallPolicy.Capability.Registry

/-!
Contract: entries and rules as JSON values.

Owns: the members of each record. Parts of a constraint, parameters and
capabilities are left out when they are empty; everything else is always there.

Does not own: JSON text.
-/

namespace CallPolicy.Document

/-- A member that is left out when it is empty. -/
def unlessEmpty (empty : Bool) (name : String) (value : Json) : List (String × Json) :=
  if empty then [] else [(name, value)]

/-- A map of lists of texts. -/
def valuesJson (map : Keyed (List String)) : Json :=
  .object (map.entries.map fun entry => (entry.1, Json.ofStrings entry.2))

/-- A constraint. -/
def constraintJson (constraint : Constraint) : Json :=
  .object
    (unlessEmpty constraint.headers.isEmpty "headers" (valuesJson constraint.headers) ++
      unlessEmpty constraint.query.isEmpty "query" (valuesJson constraint.query) ++
      unlessEmpty constraint.body.isEmpty "body" (.object constraint.body.entries))

/-- A map of constraints. -/
def methodsJson (methods : Keyed Constraint) : Json :=
  .object (methods.entries.map fun entry => (entry.1, constraintJson entry.2))

/-- A rule as it stands in a document. -/
def ruleJson (rule : Rule) : Json :=
  .object [("path", .string rule.path), ("methods", methodsJson rule.methods)]

/-- A declared capability. -/
def capabilityUseJson (declared : CapabilityUse) : Json :=
  .object
    (("name", .string declared.name) ::
      unlessEmpty declared.params.isEmpty "params" (.object declared.params.entries))

/-- A caller of an allowlist. -/
def allowCallerJson (caller : AllowCaller) : Json :=
  .object
    (("id", .string caller.id) ::
      (unlessEmpty caller.capabilities.isEmpty "capabilities"
          (.array (caller.capabilities.map capabilityUseJson)) ++
        [("rules", .array (caller.rules.map ruleJson))]))

/-- An entry of an allowlist. -/
def allowEntryJson (entry : AllowEntry) : Json :=
  .object [("integration", .string entry.integration),
    ("callers", .array (entry.callers.map allowCallerJson))]

/-- A caller of a denylist. -/
def denyCallerJson (caller : DenyCaller) : Json :=
  .object [("id", .string caller.id), ("rules", .array (caller.rules.map ruleJson))]

/-- An entry of a denylist. -/
def denyEntryJson (entry : DenyEntry) : Json :=
  .object [("integration", .string entry.integration),
    ("callers", .array (entry.callers.map denyCallerJson))]

/-- What a listing says about a capability. -/
def capabilityInfoJson (info : CapabilityInfo) : Json :=
  .object [("integration", .string info.integration), ("name", .string info.name),
    ("params", Json.ofStrings info.params), ("required", Json.ofStrings info.required)]

end CallPolicy.Document
