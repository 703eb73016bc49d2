import CallPolicy.Proofs.Repositories

/-!
Contract: capabilities that are about a body ask for what was set, and for all of it.

Owns:
- the parameters that the three capabilities about a body accept;
- the constraint that they come to, and the one path and method it stands under;
- exactly the requests that are allowed to a caller to whom one of them is all that is given.

Does not own: how bodies are read, and which of several members of one name counts.
-/

namespace CallPolicy

/-- The capabilities that are about a body. -/
inductive BodyUse where
  | postAs
  | chatCompletion
  | createIssue
deriving DecidableEq, Repr

namespace BodyUse

def home : BodyUse → String
  | postAs => "slack"
  | chatCompletion => "openai"
  | createIssue => "github"

def title : BodyUse → String
  | postAs => "post_as"
  | chatCompletion => "chat_completion"
  | createIssue => "create_issue"

def generate : BodyUse → Params → Except CapabilityError (List Rule)
  | postAs => Builtin.slackPostAs
  | chatCompletion => Builtin.openaiChatCompletion
  | createIssue => Builtin.githubCreateIssue

/-- The parameters that the capability asks a body for. -/
def bodyNames : BodyUse → List String
  | postAs => ["channel", "username"]
  | chatCompletion => ["model"]
  | createIssue => ["labels"]

/-- The path that the capability is about. -/
def path : BodyUse → Params → List String
  | postAs, _ => ["api", "chat.postMessage"]
  | chatCompletion, _ => ["v1", "chat", "completions"]
  | createIssue, params =>
      match params.get? "repo" with
      | some (.string repo) => "repos" :: Path.rawSegments repo ++ ["issues"]
      | _ => []

/-- The parameters that the capability accepts. A text that is set is not blank. -/
def Accepts : BodyUse → Params → Prop
  | postAs, params =>
      params.HasText "username" ∧ (params.Unset "channel" ∨ params.HasText "channel")
  | chatCompletion, params => params.Unset "model" ∨ params.HasText "model"
  | createIssue, params => RepositoryUse.createIssue.Accepts params

section Rules

variable {capability : BodyUse} {params : Params}

theorem exists_generate_iff :
    (∃ rules, capability.generate params = .ok rules) ↔ capability.Accepts params := by
  cases capability with
  | postAs =>
      rw [Accepts, ← Params.exists_requiredText_iff, ← Params.exists_optionalText_iff]
      refine Checks.exists_bind_eq_ok_iff.trans ?_
      simp [Checks.exists_bind_eq_ok_iff]
  | chatCompletion =>
      rw [Accepts, ← Params.exists_optionalText_iff]
      refine Checks.exists_bind_eq_ok_iff.trans ?_
      simp
  | createIssue =>
      have asRepositoryUse := @RepositoryUse.exists_generate_iff .createIssue params
      exact asRepositoryUse

theorem exists_of_generate {rules : List Rule} (generated : capability.generate params = .ok rules) :
    ∃ pattern constraint, rules = [.onMethods pattern ["POST"] constraint] ∧
      constraint.AsksFor params capability.bodyNames ∧
      Path.clean pattern = capability.path params ∧
      ∀ segment ∈ capability.path params, Path.Literal segment := by
  cases capability with
  | postAs =>
      obtain ⟨username, required, named⟩ := Checks.bind_eq_ok_iff.mp generated
      obtain ⟨channel, optional, same⟩ := Checks.bind_eq_ok_iff.mp named
      cases same
      have asks := (Constraint.asksFor_nil params).requiredText required
      have clean : Path.clean "/api/chat.postMessage" = ["api", "chat.postMessage"] := by decide
      have literal : ∀ segment ∈ ["api", "chat.postMessage"], Path.Literal segment := by decide
      exact ⟨_, _, rfl, asks.optionalText optional, clean, literal⟩
  | chatCompletion =>
      obtain ⟨model, optional, same⟩ := Checks.bind_eq_ok_iff.mp generated
      cases same
      have asks := (Constraint.asksFor_nil params).optionalText optional
      have clean : Path.clean "/v1/chat/completions" = ["v1", "chat", "completions"] := by decide
      have literal : ∀ segment ∈ ["v1", "chat", "completions"], Path.Literal segment := by decide
      exact ⟨_, _, rfl, asks, clean, literal⟩
  | createIssue =>
      have asRepositoryUse := @RepositoryUse.exists_of_generate .createIssue params rules generated
      obtain ⟨repo, constraint, named, asks, same⟩ := asRepositoryUse
      obtain ⟨set, owner, name, isRepository⟩ := Builtin.repository_eq_ok_iff.mp named
      have path : createIssue.path params = ["repos", owner, name, "issues"] := by
        simp [path, set, isRepository.parts]
      refine ⟨_, constraint, same, asks, ?_, ?_⟩
      · rw [path, RepositoryUse.clean_pattern isRepository]
        rfl
      · rw [path]
        simp only [List.forall_mem_cons]
        exact ⟨by decide, isRepository.owner, isRepository.name, by decide, List.forall_mem_nil _⟩

end Rules

theorem builtin_lookup (capability : BodyUse) :
    ∃ spec, Registry.builtin.lookup capability.home capability.title = some spec ∧
      spec.generate = capability.generate := by
  cases capability <;> exact ⟨_, rfl, rfl⟩

/-- A capability about a body accepts texts that are not blank, and labels that are a list of
texts; null counts as absent. A caller to whom it is all that is given may make exactly the
requests with its method and its path whose body shows every parameter that was set: in the
last member of its name of a JSON object, equal to a text and with all the labels in an array,
or among the values of its field of a form. Where none was set the body is not asked for. -/
theorem authorize_iff_shown (capability : BodyUse) :
    (∃ spec, Registry.builtin.lookup capability.home capability.title = some spec ∧
      ∀ params, (∃ rules, spec.generate params = .ok rules) ↔ capability.Accepts params) ∧
    ∀ (engine : Engine) (integration caller : String) (params : Params),
      engine.GivesOnly integration caller ⟨capability.title, params⟩ →
      engine.registry.lookup integration capability.title =
        Registry.builtin.lookup capability.home capability.title →
      ∀ (head : RequestHead) (body : Body),
        (engine.authorize integration caller head body).1 = .allow ↔
          Text.Ascii.upper head.method = "POST" ∧
          Path.ofRequest? head.path = some (capability.path params) ∧
          ((∀ name ∈ capability.bodyNames, params.Unset name) ∨
            ∃ bytes, body.look.1 = .ok bytes ∧
              ((head.mediaType? = some .json ∧ ∃ members,
                  Json.parseBytes? bytes = some (.object members) ∧
                    params.ShownByObject capability.bodyNames (Json.membersOf members)) ∨
                (head.mediaType? = some .form ∧ ∃ form, Form.parse? bytes = some form ∧
                  params.ShownByForm capability.bodyNames form))) := by
  obtain ⟨spec, found, sameGenerate⟩ := builtin_lookup capability
  refine ⟨⟨spec, found, fun params => by rw [sameGenerate, exists_generate_iff]⟩, ?_⟩
  intro engine integration caller params only known head body
  rw [found] at known
  obtain ⟨rules, generated⟩ := only.generates known
  have made := generated
  rw [sameGenerate] at made
  obtain ⟨pattern, constraint, rfl, asks, clean, literal⟩ := exists_of_generate made
  rw [only.authorize_eq_allow_iff known generated (by decide), asks.met_iff, clean]
  simp only [Path.matchSegments_literal literal, List.mem_singleton]
  constructor
  · rintro ⟨_, readable, rfl, isPost, shown⟩
    exact ⟨isPost, readable, shown⟩
  · rintro ⟨isPost, readable, shown⟩
    exact ⟨_, readable, rfl, isPost, shown⟩

namespace BodySample

/-- A name to post under, and no channel. -/
def params : Params :=
  (Keyed.empty.insert "username" (.string "ops-bot")).insert "channel" .null

def callers : List AllowCaller := [⟨"bot", [⟨"post_as", params⟩], []⟩]

/-- An engine that lets a caller post under the name. -/
def engine : Engine := ((Engine.ofRegistry .builtin).call (.setAllowed "slack" callers)).2

def head : RequestHead :=
  ⟨"post", "/api//chat%2EpostMessage", none,
    [("content-type", Text.Utf8.bytes "application/json; charset=utf-8")]⟩

/-- Two names in the order of a message, of which the later counts. -/
def members (first second : String) : List (String × Json) :=
  [("username", .string first), ("username", .string second)]

/-- A message with the name as the later one, in two pieces. -/
def posted : Body :=
  .waiting [.chunk (Text.Utf8.bytes "\x7b\"username\":\"admin\","),
    .chunk (Text.Utf8.bytes "\"username\":\"ops-bot\"\x7d")] 64

/-- A message with the name as the earlier one. -/
def spoofed : Body :=
  .buffered (Text.Utf8.bytes "\x7b\"username\":\"ops-bot\",\"username\":\"admin\"\x7d") 64

theorem only : engine.GivesOnly "slack" "bot" ⟨"post_as", params⟩ := by
  have isCaller : ⟨"bot", [⟨"post_as", params⟩], []⟩ ∈ callers := by decide
  apply Engine.givesOnly_setAllowed isCaller rfl
  · decide
  · exact Denylist.triedFor_of_absent rfl "bot"
  · decide +kernel

theorem username : params.get? "username" = some (.string "ops-bot") := by decide

/-- The last name of a message is all that it has to show. -/
theorem shown_iff (first second : String) :
    params.ShownByObject postAs.bodyNames (Json.membersOf (members first second)) ↔
      second = "ops-bot" := by
  have channel : params.get? "channel" = some .null := by decide
  have last : (Json.membersOf (members first second)).get? "username" = some (.string second) := by
    change ((Keyed.empty.insert "username" (Json.string first)).insert "username"
      (.string second)).get? "username" = _
    rw [Keyed.get?_insert, if_pos rfl]
  simp [Params.ShownByObject, bodyNames, channel, username, last, Json.ofStrings]

end BodySample

open BodySample in
theorem authorize_iff_shown_sample :
    (engine.authorize "slack" "bot" head posted).1 = .allow ∧
      (engine.authorize "slack" "bot" head spoofed).1 ≠ .allow := by
  obtain ⟨_, decided⟩ := authorize_iff_shown .postAs
  have sameRegistry : engine.registry = .builtin := by
    rw [engine, Engine.call_registry, Engine.ofRegistry]
  have about := decided engine "slack" "bot" params only (by rw [sameRegistry]; rfl) head
  have isJson : head.mediaType? = some .json := by decide +kernel
  have postedRead : ∃ bytes, posted.look.1 = .ok bytes ∧
      Json.parseBytes? bytes = some (.object (members "admin" "ops-bot")) :=
    ⟨_, rfl, by decide +kernel⟩
  have spoofedRead : ∃ bytes, spoofed.look.1 = .ok bytes ∧
      Json.parseBytes? bytes = some (.object (members "ops-bot" "admin")) :=
    ⟨_, rfl, by decide +kernel⟩
  constructor
  · obtain ⟨bytes, looked, parsed⟩ := postedRead
    rw [about posted]
    refine ⟨by decide, by decide +kernel, Or.inr ⟨bytes, looked, Or.inl ⟨isJson, _, parsed, ?_⟩⟩⟩
    exact (shown_iff _ _).mpr rfl
  · intro allowed
    obtain ⟨_, _, unset | ⟨bytes, looked, ⟨_, given, parsed, shown⟩ | ⟨isForm, _⟩⟩⟩ :=
      (about spoofed).mp allowed
    · have unnamed : params.Unset "username" := unset "username" (by decide)
      simp [Params.Unset, username] at unnamed
    · obtain ⟨_, sameLook, spoofedParsed⟩ := spoofedRead
      rw [sameLook] at looked
      cases looked
      rw [spoofedParsed] at parsed
      obtain rfl := Json.object.inj (Option.some.inj parsed)
      exact absurd ((shown_iff _ _).mp shown) (by decide)
    · rw [isJson] at isForm
      cases isForm

end BodyUse

end CallPolicy
