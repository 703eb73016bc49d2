import CallPolicy.Capability.Params
import CallPolicy.Files

/-!
Contract: why a policy is not accepted.

Owns: one error for each violated condition, and its wording.

Does not own: the checks.
-/

namespace CallPolicy

/-- Why entries or documents are not accepted. Callers are given by their keys,
rules by their position from zero. -/
inductive PolicyError where
  | missingIntegration (index : Nat)
  | duplicateIntegration (integration : String)
  | duplicateCaller (integration caller : String)
  | emptyPath (integration caller : String) (rule : Nat)
  | noMethods (integration caller : String) (rule : Nat) (path : String)
  | invalidMethod (integration caller : String) (rule : Nat) (method : String)
  | invalidHeaderName (integration caller : String) (rule : Nat) (header : String)
  | duplicateRule (integration caller : String) (rule : Nat) (method path : String)
  | unknownCapability (integration caller capability : String)
  | unknownParameter (integration caller capability param : String)
  | refusedCapability (integration caller capability : String) (cause : CapabilityError)
  | unreadable (path : String) (cause : ReadFailure)
  | malformedJson
  | malformedYaml
deriving DecidableEq, Repr

namespace PolicyError

/-- How an integration is named in messages. -/
private def atIntegration (integration : String) : String :=
  "integration " ++ Text.quote integration

/-- How a caller is named in messages. -/
private def atCaller (integration caller : String) : String :=
  atIntegration integration ++ " caller " ++ Text.quote caller

/-- How a rule is named in messages. -/
private def atRule (integration caller : String) (rule : Nat) : String :=
  atCaller integration caller ++ " rule " ++ toString rule

/-- How a capability is named in messages. -/
private def atCapability (integration caller capability : String) : String :=
  atCaller integration caller ++ " capability " ++ Text.quote capability

/-- The wording of an error. What a parser has to say about a malformed document
is not part of it. -/
def message : PolicyError → String
  | .missingIntegration index =>
      "entry " ++ toString index ++ ": integration name must not be empty"
  | .duplicateIntegration integration => "duplicate integration " ++ Text.quote integration
  | .duplicateCaller integration caller =>
      atIntegration integration ++ ": duplicate caller " ++ Text.quote caller
  | .emptyPath integration caller rule =>
      atRule integration caller rule ++ ": path must not be empty"
  | .noMethods integration caller rule path =>
      atRule integration caller rule ++ " (" ++ path ++ "): no methods declared"
  | .invalidMethod integration caller rule method =>
      atRule integration caller rule ++ ": invalid method " ++ Text.quote method
  | .invalidHeaderName integration caller rule header =>
      atRule integration caller rule ++ ": invalid header name " ++ Text.quote header
  | .duplicateRule integration caller rule method path =>
      atRule integration caller rule ++ ": duplicate rule for " ++ method ++ " " ++ path
  | .unknownCapability integration caller capability =>
      atCaller integration caller ++ ": unknown capability " ++ Text.quote capability
  | .unknownParameter integration caller capability param =>
      atCapability integration caller capability ++ ": unknown parameter " ++ Text.quote param
  | .refusedCapability integration caller capability cause =>
      atCapability integration caller capability ++ ": " ++ cause.message
  | .unreadable path cause =>
      "failed to read policy file " ++ path ++ ": " ++ cause.message
  | .malformedJson => "invalid JSON policy document"
  | .malformedYaml => "invalid YAML policy document"

/-- The wording of the cause that lies below an error, if there is one. -/
def cause? : PolicyError → Option String
  | .refusedCapability _ _ _ cause => some cause.message
  | .unreadable _ cause => some cause.message
  | _ => none

end PolicyError

end CallPolicy
