import CallPolicy.Capability.Builtin
import CallPolicy.Proofs.History
import CallPolicy.Proofs.Parameters
import CallPolicy.Proofs.Patterns
import CallPolicy.Proofs.SingleCapability

/-!
Contract: capabilities that are about one repository stay inside it.

Owns:
- the texts that name a repository, and that exactly these are accepted;
- the rules of the three capabilities about a repository;
- the paths and methods that a caller may use to whom one of them is all that is given.

Does not own: what opening an issue asks of the body.

## Why a name cannot widen its pattern

The name is put into a text that is cut at its slashes afterwards, resolved, and read with
wildcards. Cutting gives back the two parts of the name. Neither of them is resolved away or
has a star, so both stand in the pattern as they are and match only themselves.
-/

namespace CallPolicy

/-- The text names a repository by an owner and a name below it. -/
structure IsRepository (repo owner name : String) : Prop where
  parts : Path.rawSegments repo = [owner, name]
  owner : Path.Literal owner
  name : Path.Literal name
  visible : Params.isBlankText repo = false

namespace Builtin

theorem isRepositoryPart_iff {part : List Char} :
    isRepositoryPart part = true ↔ Path.Literal (String.ofList part) := by
  have same : ∀ segment : String, String.ofList part = segment ↔ part = segment.toList := by
    intro segment
    rw [← String.toList_inj, String.toList_ofList]
  rw [Path.literal_iff, String.toList_ofList]
  simp [isRepositoryPart, same, and_assoc]

theorem areRepositoryParts_iff {text : String} :
    ((Text.splitOn '/' text.toList).length = 2 ∧
        (Text.splitOn '/' text.toList).all isRepositoryPart = true) ↔
      ∃ owner name, Path.rawSegments text = [owner, name] ∧ Path.Literal owner ∧
        Path.Literal name := by
  have two : (Text.splitOn '/' text.toList).length = 2 ↔
      ∃ owner name, Path.rawSegments text = [owner, name] := by
    rw [← List.length_eq_two, Path.rawSegments, List.length_map]
  have each : (Text.splitOn '/' text.toList).all isRepositoryPart = true ↔
      ∀ segment ∈ Path.rawSegments text, Path.Literal segment := by
    simp only [List.all_eq_true, isRepositoryPart_iff, Path.rawSegments, List.forall_mem_map]
  rw [two, each]
  constructor
  · rintro ⟨⟨owner, name, parts⟩, literal⟩
    rw [parts] at literal
    exact ⟨owner, name, parts, literal owner (by simp), literal name (by simp)⟩
  · rintro ⟨owner, name, parts, ownerLiteral, nameLiteral⟩
    refine ⟨⟨owner, name, parts⟩, ?_⟩
    simp [parts, ownerLiteral, nameLiteral]

theorem repository_eq_ok_iff {params : Params} {repo : String} :
    repository params = .ok repo ↔
      params.get? "repo" = some (.string repo) ∧ ∃ owner name, IsRepository repo owner name := by
  rw [repository, Checks.bind_eq_ok_iff]
  simp only [Params.requiredText_eq_ok_iff]
  constructor
  · rintro ⟨text, ⟨set, visible⟩, named⟩
    split at named
    · rename_i isNamed
      obtain rfl := Except.ok.inj named
      obtain ⟨owner, name, parts, ownerLiteral, nameLiteral⟩ := areRepositoryParts_iff.mp isNamed
      exact ⟨set, owner, name, parts, ownerLiteral, nameLiteral, visible⟩
    · cases named
  · rintro ⟨set, owner, name, isRepository⟩
    refine ⟨repo, ⟨set, isRepository.visible⟩, if_pos (areRepositoryParts_iff.mpr ?_)⟩
    exact ⟨owner, name, isRepository.parts, isRepository.owner, isRepository.name⟩

end Builtin

/-- The capabilities about one repository. -/
inductive RepositoryUse where
  | readRepo
  | comment
  | createIssue
deriving DecidableEq, Repr

namespace RepositoryUse

def title : RepositoryUse → String
  | readRepo => "read_repo"
  | comment => "comment"
  | createIssue => "create_issue"

def generate : RepositoryUse → Params → Except CapabilityError (List Rule)
  | readRepo => Builtin.githubReadRepo
  | comment => Builtin.githubComment
  | createIssue => Builtin.githubCreateIssue

def methods : RepositoryUse → List String
  | readRepo => ["GET", "HEAD"]
  | comment | createIssue => ["POST"]

/-- The pattern of the capability below the repository. -/
def below : RepositoryUse → String
  | readRepo => "**"
  | comment => "issues/*/comments"
  | createIssue => "issues"

/-- The parameters that the capability asks a body for. -/
def bodyNames : RepositoryUse → List String
  | readRepo | comment => []
  | createIssue => ["labels"]

/-- What may follow a repository in the paths that the capability is about. -/
def Covers : RepositoryUse → List String → Prop
  | readRepo, _ => True
  | comment, rest => ∃ issue, rest = ["issues", issue, "comments"]
  | createIssue, rest => rest = ["issues"]

/-- The parameters name a repository, and labels for an issue are unset or a list of texts. -/
@[mk_iff] structure Accepts (capability : RepositoryUse) (params : Params) : Prop where
  repository : ∃ repo owner name, params.get? "repo" = some (.string repo) ∧
    IsRepository repo owner name
  labels : capability = .createIssue → params.Unset "labels" ∨ params.HasTexts "labels"

/-- The request is for something in the repository that the capability is about. -/
structure Within (capability : RepositoryUse) (owner name : String) (head : RequestHead) :
    Prop where
  path : ∃ rest, Path.ofRequest? head.path = some ("repos" :: owner :: name :: rest) ∧
    capability.Covers rest
  method : Text.Ascii.upper head.method ∈ capability.methods

/-- The pattern that the capability stands for with a repository. -/
def pattern (capability : RepositoryUse) (repo : String) : String :=
  "/repos/" ++ repo ++ ("/" ++ capability.below)

section Rules

variable {capability : RepositoryUse} {params : Params} {repo owner name : String}

theorem exists_generate_iff :
    (∃ rules, capability.generate params = .ok rules) ↔ capability.Accepts params := by
  have named : (∃ repo, Builtin.repository params = .ok repo) ↔
      ∃ repo owner name, params.get? "repo" = some (.string repo) ∧
        IsRepository repo owner name := by
    simp only [Builtin.repository_eq_ok_iff, exists_and_left]
  rw [accepts_iff, ← named, ← Params.exists_optionalTexts_iff]
  cases capability with
  | readRepo | comment =>
      refine Checks.exists_bind_eq_ok_iff.trans ?_
      simp
  | createIssue =>
      refine Checks.exists_bind_eq_ok_iff.trans ?_
      simp [Checks.exists_bind_eq_ok_iff]

theorem exists_of_generate {rules : List Rule} (generated : capability.generate params = .ok rules) :
    ∃ repo constraint, Builtin.repository params = .ok repo ∧
      constraint.AsksFor params capability.bodyNames ∧
      rules = [.onMethods (capability.pattern repo) capability.methods constraint] := by
  cases capability with
  | readRepo =>
      obtain ⟨repo, read, same⟩ := Checks.bind_eq_ok_iff.mp generated
      cases same
      exact ⟨repo, _, read, Constraint.asksFor_nil params, rfl⟩
  | comment =>
      obtain ⟨repo, read, same⟩ := Checks.bind_eq_ok_iff.mp generated
      cases same
      exact ⟨repo, _, read, Constraint.asksFor_nil params, rfl⟩
  | createIssue =>
      obtain ⟨repo, read, labelled⟩ := Checks.bind_eq_ok_iff.mp generated
      obtain ⟨labels, labelsRead, same⟩ := Checks.bind_eq_ok_iff.mp labelled
      cases same
      exact ⟨repo, _, read, (Constraint.asksFor_nil params).optionalTexts labelsRead, rfl⟩

theorem clean_pattern (isRepository : IsRepository repo owner name) :
    Path.clean (capability.pattern repo) =
      "repos" :: owner :: name :: Path.rawSegments capability.below := by
  have raw : Path.rawSegments (capability.pattern repo) =
      "" :: "repos" :: owner :: name :: Path.rawSegments capability.below := by
    have joined : capability.pattern repo = "/repos" ++ "/" ++ repo ++ "/" ++ capability.below := by
      rw [pattern, ← String.append_assoc]
      rfl
    rw [joined, Path.rawSegments_joined, Path.rawSegments_joined, isRepository.parts]
    rfl
  have belowPlain : ∀ segment ∈ Path.rawSegments capability.below, segment ∉ ["", ".", ".."] := by
    cases capability <;> decide
  apply Path.clean_of_rooted raw
  simp only [List.forall_mem_cons]
  exact ⟨by decide, isRepository.owner.plain, isRepository.name.plain, belowPlain⟩

theorem matches_pattern_iff (isRepository : IsRepository repo owner name) {segments : List String} :
    Path.matchSegments (Path.clean (capability.pattern repo)) segments = true ↔
      ∃ rest, segments = "repos" :: owner :: name :: rest ∧ capability.Covers rest := by
  have literal : ∀ segment ∈ ["repos", owner, name], Path.Literal segment := by
    simp only [List.forall_mem_cons]
    exact ⟨by decide, isRepository.owner, isRepository.name, by simp⟩
  have covers : ∀ rest, Path.matchSegments (Path.rawSegments capability.below) rest = true ↔
      capability.Covers rest := by
    intro rest
    cases capability with
    | readRepo => exact iff_of_true Path.matchSegments_anyRest trivial
    | createIssue => exact Path.matchSegments_literal (by decide)
    | comment =>
        have cut : Path.rawSegments comment.below = ["issues"] ++ Path.anySegment :: ["comments"] := by
          decide
        have last : ∀ rest, Path.matchSegments ["comments"] rest = true ↔ rest = ["comments"] :=
          fun _ => Path.matchSegments_literal (by decide)
        rw [cut, Path.matchSegments_literal_append (by decide)]
        simp only [Path.matchSegments_anySegment_cons, last]
        constructor
        · rintro ⟨_, rfl, issue, _, rfl, rfl⟩
          exact ⟨issue, rfl⟩
        · rintro ⟨issue, rfl⟩
          exact ⟨_, rfl, issue, _, rfl, rfl⟩
  rw [clean_pattern isRepository]
  change Path.matchSegments (["repos", owner, name] ++ Path.rawSegments capability.below)
    segments = true ↔ _
  simp only [Path.matchSegments_literal_append literal, covers]
  rfl

end Rules

theorem upper_methods (capability : RepositoryUse) :
    ∀ method ∈ capability.methods, Text.Ascii.upper method = method := by
  cases capability <;> decide

theorem builtin_lookup (capability : RepositoryUse) :
    ∃ spec, Registry.builtin.lookup "github" capability.title = some spec ∧
      spec.generate = capability.generate := by
  cases capability <;> exact ⟨_, rfl, rfl⟩

/-- The parameters that a capability about a repository generates rules from are those that
name a repository and have labels, if any, as a list of texts. A caller to whom it is all
that is given gets nothing outside the repository, and nothing in it that the capability is
not about; all that it is about is allowed where no labels are asked of the body. -/
theorem authorize_within_repository (capability : RepositoryUse) :
    (∃ spec, Registry.builtin.lookup "github" capability.title = some spec ∧
      ∀ params, (∃ rules, spec.generate params = .ok rules) ↔ capability.Accepts params) ∧
    ∀ (engine : Engine) (integration caller : String) (params : Params),
      engine.GivesOnly integration caller ⟨capability.title, params⟩ →
      engine.registry.lookup integration capability.title =
        Registry.builtin.lookup "github" capability.title →
      ∀ repo owner name, params.get? "repo" = some (.string repo) → IsRepository repo owner name →
        ∀ (head : RequestHead) (body : Body),
          ((engine.authorize integration caller head body).1 = .allow →
              capability.Within owner name head) ∧
            ((∀ parameter ∈ capability.bodyNames, params.Unset parameter) →
              capability.Within owner name head →
                (engine.authorize integration caller head body).1 = .allow) := by
  obtain ⟨spec, found, sameGenerate⟩ := builtin_lookup capability
  refine ⟨⟨spec, found, fun params => by rw [sameGenerate, exists_generate_iff]⟩, ?_⟩
  intro engine integration caller params only known repo owner name set isRepository head body
  rw [found] at known
  -- The engine was built, so the parameters were accepted and there are rules to look at.
  obtain ⟨rules, generated⟩ := only.generates known
  have made := generated
  rw [sameGenerate] at made
  obtain ⟨named, constraint, isNamed, asks, rfl⟩ := exists_of_generate made
  obtain rfl : named = repo := by
    have given := (Builtin.repository_eq_ok_iff.mp isNamed).1
    rw [set] at given
    cases given
    rfl
  have allowed := only.authorize_eq_allow_iff known generated capability.upper_methods head body
  simp only [matches_pattern_iff isRepository] at allowed
  rw [allowed]
  constructor
  · rintro ⟨_, readable, ⟨rest, rfl, covered⟩, isMethod, _⟩
    exact ⟨⟨rest, readable, covered⟩, isMethod⟩
  · intro unset within
    obtain ⟨rest, readable, covered⟩ := within.path
    exact ⟨_, readable, ⟨rest, rfl, covered⟩, within.method, asks.met_iff.mpr (Or.inl unset)⟩

namespace RepositorySample

/-- A repository whose name would climb if it were decoded. -/
def params : Params := Keyed.empty.insert "repo" (.string "octo/%2e%2e")

/-- A caller that may comment in the repository, beside another one. -/
def callers : List AllowCaller :=
  [⟨"other", [], [(Rule.onPath "/**").withMethod "POST" .unrestricted]⟩,
    ⟨"bot", [⟨"comment", params⟩], []⟩]

/-- An engine with these callers. -/
def engine : Engine :=
  ((Engine.ofRegistry .builtin).call (.setAllowed " GitHub " callers)).2

/-- A comment in the repository. -/
def inside : RequestHead := ⟨"post", "/repos//octo/./%252e%252e/issues/7/comments", none, []⟩

/-- A request that climbs. -/
def climbing : RequestHead := ⟨"POST", "/repos/octo/%2e%2e/issues/7/comments", none, []⟩

theorem isRepository : IsRepository "octo/%2e%2e" "octo" "%2e%2e" where
  parts := by decide
  owner := by decide
  name := by decide
  visible := by decide +kernel

theorem only : engine.GivesOnly " GitHub " "bot" ⟨"comment", params⟩ := by
  have isCaller : ⟨"bot", [⟨"comment", params⟩], []⟩ ∈ callers := by decide
  apply Engine.givesOnly_setAllowed isCaller rfl
  · decide
  · exact Denylist.triedFor_of_absent rfl "bot"
  · decide +kernel

end RepositorySample

open RepositorySample in
theorem authorize_within_repository_sample :
    (engine.authorize " GitHub " "bot" inside .empty).1 = .allow ∧
      (engine.authorize " GitHub " "bot" climbing .empty).1 ≠ .allow := by
  obtain ⟨_, decided⟩ := authorize_within_repository .comment
  have known : engine.registry.lookup " GitHub " "comment" =
      Registry.builtin.lookup "github" "comment" := by
    have sameRegistry : engine.registry = .builtin := by
      rw [engine, Engine.call_registry, Engine.ofRegistry]
    have sameKey : integrationKey " GitHub " = "github" := by decide +kernel
    rw [sameRegistry, ← Registry.lookup_integrationKey, sameKey]
  have about := decided engine " GitHub " "bot" params only known "octo/%2e%2e" "octo" "%2e%2e"
    (by decide) isRepository
  have within : comment.Within "octo" "%2e%2e" inside :=
    ⟨⟨["issues", "7", "comments"], by decide +kernel, "7", rfl⟩, by decide⟩
  have unset : ∀ parameter ∈ comment.bodyNames, params.Unset parameter := by simp [bodyNames]
  refine ⟨(about inside .empty).2 unset within, ?_⟩
  intro allowed
  obtain ⟨rest, readable, _⟩ := ((about climbing .empty).1 allowed).path
  have climbs : Path.ofRequest? climbing.path = some ["repos", "issues", "7", "comments"] := by
    decide +kernel
  rw [climbs] at readable
  simp at readable

end RepositoryUse

end CallPolicy
