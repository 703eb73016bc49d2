import CallPolicy.Capability.Registry
import CallPolicy.Validation

/-!
Contract: the store of what callers may do.

Owns:
- building the prepared callers of one integration and of a batch;
- installing, listing and finding them;
- the choice of the constraint that governs a call.

Does not own: whether the request meets that constraint.
-/

namespace CallPolicy

/-- The installed callers of one integration by their keys. -/
abbrev AllowIndex := Keyed AllowCaller

/-- The installed callers of all integrations by their keys. -/
abbrev Allowlist := Keyed AllowIndex

namespace Allowlist

/-- An expanded caller as it is installed: under its key and with prepared rules. -/
def install (caller : AllowCaller) : AllowCaller :=
  ⟨callerKey caller.id, [], caller.rules.map Rule.prepare⟩

/-- Checks the rules of expanded callers, generated ones included, and installs
them. -/
def indexExpanded (integration : String) (index : AllowIndex) :
    List AllowCaller → Except PolicyError AllowIndex
  | [] => .ok index
  | caller :: rest => do
      Validation.rules integration caller.id false caller.rules
      let installed := install caller
      indexExpanded integration (index.insert installed.id installed) rest

/-- Builds the callers of one integration, given by its key. -/
def buildIndex (registry : Registry) (integration : String) (callers : List AllowCaller) :
    Except PolicyError AllowIndex := do
  Validation.uniqueCallers integration [] (callers.map AllowCaller.id)
  callers.forM fun caller => Validation.rules integration caller.id true caller.rules
  indexExpanded integration Keyed.empty (← registry.expand integration callers)

/-- Builds the integrations of a batch, given with their keys. -/
def buildEntries (registry : Registry) (built : Allowlist) :
    List (String × AllowEntry) → Except PolicyError Allowlist
  | [] => .ok built
  | (key, entry) :: rest => do
      let index ← buildIndex registry key entry.callers
      buildEntries registry (built.insert key index) rest

/-- Builds a whole allowlist. -/
def build (registry : Registry) (entries : List AllowEntry) : Except PolicyError Allowlist := do
  let keys ← Validation.integrationKeys 0 [] (entries.map AllowEntry.integration)
  buildEntries registry Keyed.empty (keys.zip entries)

/-- Installs the callers of one integration in place of those that were there. -/
def set (registry : Registry) (allowlist : Allowlist) (integration : String)
    (callers : List AllowCaller) : Except PolicyError Allowlist := do
  let key := integrationKey integration
  if key.isEmpty then .error (.missingIntegration 0)
  else
    let index ← buildIndex registry key callers
    .ok (allowlist.insert key index)

/-- The installed callers of an integration, sorted by id. -/
def callers (allowlist : Allowlist) (integration : String) : List AllowCaller :=
  match allowlist.get? (integrationKey integration) with
  | some index => index.values
  | none => []

/-- What the rules of a caller say about a path and a method. -/
inductive Finding where
  | matched (constraint : Constraint)
  | pathOnly
  | nothing
deriving DecidableEq, Repr

/-- Looks through rules in order. The first one that covers path and method
decides; rules that cover the path alone are remembered. -/
def scan (segments : List String) (method : String) : List Rule → Finding
  | [] => .nothing
  | rule :: rest =>
      if rule.covers segments then
        match rule.methods.get? method with
        | some constraint => .matched constraint
        | none =>
            match scan segments method rest with
            | .nothing => .pathOnly
            | found => found
      else
        scan segments method rest

/-- The installed rules of a caller, given by its key. -/
def rulesOf (index : AllowIndex) (caller : String) : List Rule :=
  match index.get? caller with
  | some installed => installed.rules
  | none => []

/-- The constraint that governs a call, from the rules of the caller, or from those
of the wildcard when none of the caller covers the path. -/
def choose (index : AllowIndex) (caller : String) (segments : List String)
    (method : String) : Option Constraint :=
  match scan segments method (rulesOf index caller) with
  | .matched constraint => some constraint
  | .pathOnly => none
  | .nothing =>
      match scan segments method (rulesOf index wildcardCaller) with
      | .matched constraint => some constraint
      | _ => none

/-- The constraint that governs a call, if the caller may make it at all. A path
that cannot be decoded is never allowed. -/
def find? (allowlist : Allowlist) (integration caller path method : String) :
    Option Constraint := do
  let index ← allowlist.get? (integrationKey integration)
  let segments ← Path.ofRequest? path
  choose index (callerKey caller) segments (Text.Ascii.upper method)

end Allowlist

end CallPolicy
