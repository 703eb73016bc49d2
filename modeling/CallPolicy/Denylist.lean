import CallPolicy.Constraint.Met
import CallPolicy.Validation

/-!
Contract: the store of what callers must not do.

Owns:
- building the prepared rules of one integration and of a batch;
- installing and listing them;
- the refusal of a request, and its wording.

Does not own: whether the request was allowed in the first place.
-/

namespace CallPolicy

/-- The installed rules of one integration by the keys of callers. -/
abbrev DenyIndex := Keyed (List Rule)

/-- The installed rules of all integrations by their keys. -/
abbrev Denylist := Keyed DenyIndex

/-- Why a request is refused. -/
inductive Refusal where
  | forbidden (caller method path : String)
  | undecodable (caller path : String)
deriving DecidableEq, Repr

/-- The wording of a refusal. -/
def Refusal.message : Refusal → String
  | .forbidden caller method path =>
      "caller " ++ Text.quote caller ++ " is denied " ++ method ++ " " ++ path
  | .undecodable caller path =>
      "caller " ++ Text.quote caller ++ " sent an undecodable path " ++ path

namespace Denylist

/-- Checks and installs callers in order. -/
def indexCallers (integration : String) (index : DenyIndex) :
    List DenyCaller → Except PolicyError DenyIndex
  | [] => .ok index
  | caller :: rest => do
      Validation.rules integration caller.id true caller.rules
      indexCallers integration
        (index.insert (callerKey caller.id) (caller.rules.map Rule.prepare)) rest

/-- Builds the rules of one integration, given by its key. -/
def buildIndex (integration : String) (callers : List DenyCaller) :
    Except PolicyError DenyIndex := do
  Validation.uniqueCallers integration [] (callers.map DenyCaller.id)
  indexCallers integration Keyed.empty callers

/-- Builds the integrations of a batch, given with their keys. -/
def buildEntries (built : Denylist) :
    List (String × DenyEntry) → Except PolicyError Denylist
  | [] => .ok built
  | (key, entry) :: rest => do
      let index ← buildIndex key entry.callers
      buildEntries (built.insert key index) rest

/-- Builds a whole denylist. -/
def build (entries : List DenyEntry) : Except PolicyError Denylist := do
  let keys ← Validation.integrationKeys 0 [] (entries.map DenyEntry.integration)
  buildEntries Keyed.empty (keys.zip entries)

/-- Installs the callers of one integration in place of those that were there. -/
def set (denylist : Denylist) (integration : String) (callers : List DenyCaller) :
    Except PolicyError Denylist := do
  let key := integrationKey integration
  if key.isEmpty then .error (.missingIntegration 0)
  else
    let index ← buildIndex key callers
    .ok (denylist.insert key index)

/-- The installed callers of an integration, sorted by id. -/
def callers (denylist : Denylist) (integration : String) : List DenyCaller :=
  match denylist.get? (integrationKey integration) with
  | some index => index.entries.map fun entry => ⟨entry.1, entry.2⟩
  | none => []

/-- Whether some rule covers the request and is met by it. Rules are tried in
order, and the body is handed from one to the next. -/
def anyMet (head : RequestHead) (segments : List String) (method : String) (body : Body) :
    List Rule → Bool × Body
  | [] => (false, body)
  | rule :: rest =>
      if rule.covers segments then
        match rule.methods.get? method with
        | some constraint =>
            match constraint.met head body with
            | (true, looked) => (true, looked)
            | (false, looked) => anyMet head segments method looked rest
        | none => anyMet head segments method body rest
      else
        anyMet head segments method body rest

/-- The installed rules of a caller, given by its key. -/
def rulesOf (index : DenyIndex) (caller : String) : List Rule :=
  (index.get? caller).getD []

/-- The callers whose rules concern a caller: itself, then the wildcard. -/
def concerned (caller : String) : List String :=
  if caller = wildcardCaller then [caller] else [caller, wildcardCaller]

/-- The refusal of a request, if it is refused. As soon as an integration has
callers here, a path that cannot be decoded is refused. -/
def refusal? (denylist : Denylist) (integration caller : String) (head : RequestHead)
    (body : Body) : Option Refusal × Body :=
  match denylist.get? (integrationKey integration) with
  | none => (none, body)
  | some index =>
      if index.isEmpty then (none, body)
      else
        let key := callerKey caller
        match Path.ofRequest? head.path with
        | none => (some (.undecodable key head.path), body)
        | some segments =>
            let method := Text.Ascii.upper head.method
            match anyMet head segments method body
                ((concerned key).flatMap (rulesOf index)) with
            | (true, looked) => (some (.forbidden key method head.path), looked)
            | (false, looked) => (none, looked)

end Denylist

end CallPolicy
