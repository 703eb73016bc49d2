import CallPolicy.Entry
import CallPolicy.PolicyError
import CallPolicy.Request

/-!
Contract: checks of declared entries, in a fixed order.

Owns:
- the names of a batch of integrations;
- the ids of the callers of one integration;
- the rules of one caller.

Does not own: capabilities, which are expanded between two checks of the rules.
-/

namespace CallPolicy.Validation

/-- The keys of a batch of integrations: none may be empty or repeat an earlier
one. -/
def integrationKeys (index : Nat) (seen : List String) :
    List String → Except PolicyError (List String)
  | [] => .ok []
  | name :: rest =>
      let key := integrationKey name
      if key.isEmpty then .error (.missingIntegration index)
      else if seen.contains key then .error (.duplicateIntegration key)
      else (integrationKeys (index + 1) (key :: seen) rest).map (key :: ·)

/-- The ids of callers: no key may repeat an earlier one. -/
def uniqueCallers (integration : String) (seen : List String) :
    List String → Except PolicyError Unit
  | [] => .ok ()
  | id :: rest =>
      let key := callerKey id
      if seen.contains key then .error (.duplicateCaller integration key)
      else uniqueCallers integration (key :: seen) rest

/-- Where a rule stands, for messages. -/
structure Place where
  integration : String
  caller : String
  rule : Nat
deriving DecidableEq, Repr

/-- The methods of one rule, in order: each must be a token, its header names must
be possible, and, where repetitions are refused, the caller must not have it on the
same path already. Gives the pairs of path and method seen so far. -/
def checkMethods (place : Place) (path : String) (refuseRepeats : Bool)
    (seen : List (String × String)) :
    List (String × Constraint) → Except PolicyError (List (String × String))
  | [] => .ok seen
  | (name, constraint) :: rest =>
      let method := Text.Ascii.upper name
      if !Text.Ascii.isToken method then
        .error (.invalidMethod place.integration place.caller place.rule method)
      else
        match constraint.headers.keys.find? fun header =>
            (headerName? (Text.Utf8.bytes header)).isNone with
        | some header =>
            .error (.invalidHeaderName place.integration place.caller place.rule header)
        | none =>
            if refuseRepeats && seen.contains (path, method) then
              .error (.duplicateRule place.integration place.caller place.rule method path)
            else
              checkMethods place path refuseRepeats ((path, method) :: seen) rest

/-- The rules of one caller, in order: each needs a path that is not blank, some
method, and methods without fault. -/
def checkRules (integration caller : String) (refuseRepeats : Bool) (index : Nat)
    (seen : List (String × String)) : List Rule → Except PolicyError Unit
  | [] => .ok ()
  | rule :: rest => do
      if Params.isBlankText rule.path then
        .error (.emptyPath integration caller index)
      else if rule.methods.isEmpty then
        .error (.noMethods integration caller index rule.path)
      else
        let next ← checkMethods ⟨integration, caller, index⟩ (Path.cleanText rule.path)
          refuseRepeats seen rule.methods.entries
        checkRules integration caller refuseRepeats (index + 1) next rest

/-- The rules of the caller with a given id, from the first. -/
def rules (integration id : String) (refuseRepeats : Bool) (declared : List Rule) :
    Except PolicyError Unit :=
  checkRules integration (callerKey id) refuseRepeats 0 [] declared

end CallPolicy.Validation
