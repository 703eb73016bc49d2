import CallPolicy.Capability.Registry

/-!
Contract: the capabilities that are always there.

Owns: their rules and the form of a repository name.

Does not own: registration of further capabilities.
-/

namespace CallPolicy.Builtin

/-- The methods of full access. -/
def allMethods : List String :=
  ["GET", "HEAD", "POST", "PUT", "PATCH", "DELETE", "OPTIONS", "CONNECT", "TRACE"]

/-- Every method on every path. -/
def fullAccess (_ : Params) : Except CapabilityError (List Rule) :=
  .ok [allMethods.foldl (fun rule method => rule.withMethod method Constraint.unrestricted)
    (Rule.onPath "/**")]

/-- Posting messages under a fixed name, and into one channel if it is given. -/
def slackPostAs (params : Params) : Except CapabilityError (List Rule) := do
  let username ← params.requiredText "username"
  let named := Constraint.unrestricted.withBodyField "username" (.string username)
  let constraint :=
    match ← params.optionalText "channel" with
    | some channel => named.withBodyField "channel" (.string channel)
    | none => named
  .ok [(Rule.onPath "/api/chat.postMessage").withMethod "POST" constraint]

/-- Reading the channels and their history. -/
def slackReadChannels (_ : Params) : Except CapabilityError (List Rule) :=
  .ok (["/api/conversations.list", "/api/conversations.history"].map fun path =>
    (Rule.onPath path).withMethod "GET" Constraint.unrestricted)

/-- A part of a repository name: one segment that is no wildcard and does not
climb. -/
def isRepositoryPart (part : List Char) : Bool :=
  !part.isEmpty && part != ['.'] && part != ['.', '.'] && !part.contains '*'

/-- The repository that the parameters name. -/
def repository (params : Params) : Except CapabilityError String := do
  let repo ← params.requiredText "repo"
  let parts := Text.splitOn '/' repo.toList
  if parts.length = 2 ∧ parts.all isRepositoryPart then .ok repo
  else .error (.invalid "repo" ("must be in owner/name form, got " ++ Text.quote repo))

/-- Reading everything below a repository, and the repository itself. -/
def githubReadRepo (params : Params) : Except CapabilityError (List Rule) := do
  let repo ← repository params
  .ok [((Rule.onPath ("/repos/" ++ repo ++ "/**")).withMethod "GET"
    Constraint.unrestricted).withMethod "HEAD" Constraint.unrestricted]

/-- Commenting on the issues of a repository. -/
def githubComment (params : Params) : Except CapabilityError (List Rule) := do
  let repo ← repository params
  .ok [(Rule.onPath ("/repos/" ++ repo ++ "/issues/*/comments")).withMethod "POST"
    Constraint.unrestricted]

/-- Opening issues in a repository, with at least the given labels. -/
def githubCreateIssue (params : Params) : Except CapabilityError (List Rule) := do
  let repo ← repository params
  let constraint :=
    match ← params.optionalTexts "labels" with
    | some labels => Constraint.unrestricted.withBodyField "labels" (Json.ofStrings labels)
    | none => Constraint.unrestricted
  .ok [(Rule.onPath ("/repos/" ++ repo ++ "/issues")).withMethod "POST" constraint]

/-- Asking for completions, from one model if it is given. -/
def openaiChatCompletion (params : Params) : Except CapabilityError (List Rule) := do
  let constraint :=
    match ← params.optionalText "model" with
    | some model => Constraint.unrestricted.withBodyField "model" (.string model)
    | none => Constraint.unrestricted
  .ok [(Rule.onPath "/v1/chat/completions").withMethod "POST" constraint]

end CallPolicy.Builtin

namespace CallPolicy

open Builtin in
/-- The registry of all built-in capabilities. -/
def Registry.builtin : Registry :=
  Registry.empty
    |>.register globalIntegration "dangerously_allow_full_access"
      (CapabilitySpec.optional [] fullAccess)
    |>.register "slack" "post_as"
      ((CapabilitySpec.optional ["channel"] slackPostAs).withRequired ["username"])
    |>.register "slack" "read_channels" (CapabilitySpec.optional [] slackReadChannels)
    |>.register "github" "read_repo"
      ((CapabilitySpec.optional [] githubReadRepo).withRequired ["repo"])
    |>.register "github" "comment"
      ((CapabilitySpec.optional [] githubComment).withRequired ["repo"])
    |>.register "github" "create_issue"
      ((CapabilitySpec.optional ["labels"] githubCreateIssue).withRequired ["repo"])
    |>.register "openai" "chat_completion"
      (CapabilitySpec.optional ["model"] openaiChatCompletion)

end CallPolicy
