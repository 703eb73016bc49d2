import CallPolicy.Entry
import CallPolicy.PolicyError

/-!
Contract: named capabilities and their expansion into rules.

Owns:
- the specification of a capability, with any generator of rules;
- registration and look-up, with a fallback to capabilities of all integrations;
- expansion of the capabilities that callers declare.

Does not own: particular capabilities.
-/

namespace CallPolicy

/-- The integration whose capabilities all integrations may use. -/
def globalIntegration : String := "*"

/-- A capability: the parameters it knows, those among them that it needs, and the
rules it stands for. -/
structure CapabilitySpec where
  params : List String
  required : List String
  generate : Params → Except CapabilityError (List Rule)

namespace CapabilitySpec

/-- A capability that needs none of the parameters it knows. -/
def optional (params : List String)
    (generate : Params → Except CapabilityError (List Rule)) : CapabilitySpec :=
  ⟨params, [], generate⟩

/-- Marks one parameter as needed. It is known from then on. -/
def requireOne (spec : CapabilitySpec) (name : String) : CapabilitySpec where
  params := if spec.params.contains name then spec.params else spec.params ++ [name]
  required := spec.required ++ [name]
  generate := spec.generate

/-- Marks parameters as needed. -/
def withRequired (spec : CapabilitySpec) (names : List String) : CapabilitySpec :=
  names.foldl requireOne spec

/-- Whether a parameter is known. -/
def accepts (spec : CapabilitySpec) (name : String) : Bool :=
  spec.params.contains name

/-- The debugging text. -/
def describe (spec : CapabilitySpec) : String :=
  "CapabilitySpec \x7b params: " ++ Text.quoteList spec.params ++ ", required: " ++
    Text.quoteList spec.required ++ ", .. \x7d"

end CapabilitySpec

/-- What a listing says about a capability. -/
structure CapabilityInfo where
  integration : String
  name : String
  params : List String
  required : List String
deriving DecidableEq, Repr

/-- The registered capabilities by integration key and name. -/
structure Registry where
  specs : Keyed (Keyed CapabilitySpec)

namespace Registry

/-- The registry without capabilities. -/
def empty : Registry := ⟨Keyed.empty⟩

/-- Registers a capability, in place of one of the same integration and name. -/
def register (registry : Registry) (integration name : String) (spec : CapabilitySpec) :
    Registry :=
  ⟨registry.specs.alter (integrationKey integration) fun known =>
    (known.getD Keyed.empty).insert name spec⟩

/-- A capability of exactly one integration, given by its key. -/
def ofKey? (registry : Registry) (key name : String) : Option CapabilitySpec :=
  (registry.specs.get? key).bind fun known => known.get? name

/-- The capability that a name means for an integration: its own, or else the
global one. -/
def lookup (registry : Registry) (integration name : String) : Option CapabilitySpec :=
  (registry.ofKey? (integrationKey integration) name).or
    (registry.ofKey? globalIntegration name)

/-- All capabilities, sorted by integration and name. -/
def capabilities (registry : Registry) : List CapabilityInfo :=
  registry.specs.entries.flatMap fun known =>
    known.2.entries.map fun entry => ⟨known.1, entry.1, entry.2.params, entry.2.required⟩

/-- The rules that one declared capability stands for. -/
def rulesOf (registry : Registry) (integration caller : String) (use : CapabilityUse) :
    Except PolicyError (List Rule) :=
  match registry.lookup integration use.name with
  | none => .error (.unknownCapability integration caller use.name)
  | some spec =>
      match use.params.keys.find? fun param => !spec.accepts param with
      | some param => .error (.unknownParameter integration caller use.name param)
      | none =>
          match spec.generate use.params with
          | .ok rules => .ok rules
          | .error cause => .error (.refusedCapability integration caller use.name cause)

/-- A caller with the rules of its capabilities after its own, in the order in
which it declares them. -/
def expandCaller (registry : Registry) (integration : String) (caller : AllowCaller) :
    Except PolicyError AllowCaller := do
  let generated ← caller.capabilities.mapM (registry.rulesOf integration (callerKey caller.id))
  .ok ⟨caller.id, [], caller.rules ++ generated.flatten⟩

/-- Expands all callers. The first capability that cannot be expanded ends the
whole expansion. -/
def expand (registry : Registry) (integration : String) (callers : List AllowCaller) :
    Except PolicyError (List AllowCaller) :=
  callers.mapM (registry.expandCaller integration)

end Registry

end CallPolicy
