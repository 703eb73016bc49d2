import CallPolicy.Proofs.BodyParameters
import CallPolicy.Proofs.FirstFault
import CallPolicy.Proofs.ParameterFaults
import CallPolicy.Proofs.Ready
import CallPolicy.Proofs.Registrations

/-!
Contract: the capabilities that are always there expand into rules that can be installed.

Owns:
- the integrations that each of them is there for;
- exactly which parameters each of them accepts, and which error the others are refused with;
- that their rules pass all checks and lose no method when they are prepared.

Does not own: the requests that the rules are about.
-/

namespace CallPolicy

open Checks

/-- The capabilities that are always there. -/
inductive BuiltinUse where
  | fullAccess
  | postAs
  | readChannels
  | readRepo
  | comment
  | createIssue
  | chatCompletion
deriving DecidableEq, Repr

namespace BuiltinUse

def home : BuiltinUse → String
  | fullAccess => globalIntegration
  | postAs | readChannels => "slack"
  | readRepo | comment | createIssue => "github"
  | chatCompletion => "openai"

def title : BuiltinUse → String
  | fullAccess => "dangerously_allow_full_access"
  | postAs => "post_as"
  | readChannels => "read_channels"
  | readRepo => "read_repo"
  | comment => "comment"
  | createIssue => "create_issue"
  | chatCompletion => "chat_completion"

def spec : BuiltinUse → CapabilitySpec
  | fullAccess => .optional [] Builtin.fullAccess
  | postAs => (CapabilitySpec.optional ["channel"] Builtin.slackPostAs).withRequired ["username"]
  | readChannels => .optional [] Builtin.slackReadChannels
  | readRepo => (CapabilitySpec.optional [] Builtin.githubReadRepo).withRequired ["repo"]
  | comment => (CapabilitySpec.optional [] Builtin.githubComment).withRequired ["repo"]
  | createIssue =>
      (CapabilitySpec.optional ["labels"] Builtin.githubCreateIssue).withRequired ["repo"]
  | chatCompletion => .optional ["model"] Builtin.openaiChatCompletion

/-- The parameters that the capability reads, in their order. -/
def parameters : BuiltinUse → List Parameter
  | fullAccess | readChannels => []
  | postAs => [⟨"username", .visibleText, true⟩, ⟨"channel", .visibleText, false⟩]
  | readRepo | comment => [⟨"repo", .repositoryName, true⟩]
  | createIssue => [⟨"repo", .repositoryName, true⟩, ⟨"labels", .listOfTexts, false⟩]
  | chatCompletion => [⟨"model", .visibleText, false⟩]

/-! ### Look-ups -/

def registration (capability : BuiltinUse) : Registration :=
  ⟨capability.home, capability.title, capability.spec⟩

def all : List BuiltinUse :=
  [fullAccess, postAs, readChannels, readRepo, comment, createIssue, chatCompletion]

theorem builtin_eq : Registry.builtin = Registry.ofHistory (all.map registration) := rfl

theorem mem_all (capability : BuiltinUse) : capability ∈ all := by
  cases capability <;> decide

theorem title_inj {left right : BuiltinUse} (same : left.title = right.title) : left = right :=
  List.inj_on_of_nodup_map (f := title) (l := all) (by decide) left.mem_all right.mem_all same

theorem slot_registration (capability : BuiltinUse) :
    capability.registration.slot = (capability.home, capability.title) := by
  have key : integrationKey capability.home = capability.home := by
    cases capability <;> decide +kernel
  rw [Registration.slot, registration, key]

theorem ofKey?_builtin_eq_some_iff {key name : String} {spec : CapabilitySpec} :
    Registry.builtin.ofKey? key name = some spec ↔
      ∃ capability : BuiltinUse, capability.home = key ∧ capability.title = name ∧
        capability.spec = spec := by
  rw [builtin_eq, Registry.ofKey?_ofHistory, Registration.last?, ← List.map_reverse,
    List.find?_map, Option.map_map, Option.map_eq_some_iff]
  constructor
  · rintro ⟨capability, found, rfl⟩
    have slot : capability.registration.slot = (key, name) := by simpa using List.find?_some found
    rw [slot_registration] at slot
    obtain ⟨home, title⟩ := Prod.mk.inj slot
    exact ⟨capability, home, title, rfl⟩
  · rintro ⟨capability, rfl, rfl, rfl⟩
    refine ⟨capability, ?_, rfl⟩
    have isSlot : ∀ other : BuiltinUse,
        other.registration.slot = (capability.home, capability.title) ↔ other = capability := by
      intro other
      rw [slot_registration, Prod.mk.injEq]
      exact ⟨fun same => title_inj same.2, fun same => same ▸ ⟨rfl, rfl⟩⟩
    simp only [Function.comp_def, isSlot]
    cases capability <;> rfl

/-- Exactly these capabilities are there for an integration: its own and the global ones. No
two of them have the same name, so none hides another. -/
theorem builtin_lookup_eq_some_iff {integration name : String} {spec : CapabilitySpec} :
    Registry.builtin.lookup integration name = some spec ↔
      ∃ capability : BuiltinUse, capability.title = name ∧ capability.spec = spec ∧
        (capability.home = integrationKey integration ∨ capability.home = globalIntegration) := by
  have own := @ofKey?_builtin_eq_some_iff (integrationKey integration) name
  have global := @ofKey?_builtin_eq_some_iff globalIntegration name
  rw [Registry.lookup]
  cases found : Registry.builtin.ofKey? (integrationKey integration) name with
  | some known =>
      obtain ⟨capability, home, title, rfl⟩ := own.mp found
      rw [Option.some_or, Option.some.injEq]
      constructor
      · rintro rfl
        exact ⟨capability, title, rfl, Or.inl home⟩
      · rintro ⟨other, sameTitle, rfl, _⟩
        rw [title_inj (title.trans sameTitle.symm)]
  | none =>
      rw [Option.none_or, global]
      constructor
      · rintro ⟨capability, home, title, rfl⟩
        exact ⟨capability, title, rfl, Or.inr home⟩
      · rintro ⟨capability, title, rfl, home | home⟩
        · rw [own.mpr ⟨capability, home, title, rfl⟩] at found
          cases found
        · exact ⟨capability, home, title, rfl⟩

/-! ### Parameters -/

section Parameters

variable (capability : BuiltinUse)

theorem accepts_iff (name : String) :
    capability.spec.accepts name = true ↔
      name ∈ capability.parameters.map Parameter.name := by
  cases capability <;>
    simp [spec, parameters, CapabilitySpec.accepts, CapabilitySpec.optional,
      CapabilitySpec.withRequired, CapabilitySpec.requireOne, or_comm]

/-- What is needed is read first. -/
theorem exists_parameters_of_required {name : String} (needed : name ∈ capability.spec.required) :
    ∃ parameter rest, capability.parameters = parameter :: rest ∧ parameter.name = name ∧
      parameter.needed = true := by
  cases capability with
  | fullAccess | readChannels | chatCompletion => cases needed
  | postAs | readRepo | comment | createIssue =>
      obtain rfl := List.mem_singleton.mp needed
      exact ⟨_, _, rfl, rfl, rfl⟩

theorem required_eq : capability.spec.required =
    (capability.parameters.filter Parameter.needed).map Parameter.name := by
  cases capability <;> rfl

theorem mem_required_of_needed {parameter : Parameter}
    (isRead : parameter ∈ capability.parameters) (needed : parameter.needed = true) :
    parameter.name ∈ capability.spec.required := by
  rw [required_eq]
  exact List.mem_map_of_mem (List.mem_filter.mpr ⟨isRead, needed⟩)

/-- The parameters of a capability decide whether it generates rules. -/
theorem generate_read (params : Params) :
    ReadInOrder capability.parameters params (capability.spec.generate params) := by
  cases capability with
  | fullAccess => exact .nothing _
  | readChannels => exact .nothing _
  | postAs =>
      refine (params.requiredText_read "username").bind fun username => ?_
      exact (params.optionalText_read "channel").bind fun channel => .nothing _
  | readRepo => exact (Builtin.repository_read params).bind fun repo => .nothing _
  | comment => exact (Builtin.repository_read params).bind fun repo => .nothing _
  | createIssue =>
      refine (Builtin.repository_read params).bind fun repo => ?_
      exact (params.optionalTexts_read "labels").bind fun labels => .nothing _
  | chatCompletion => exact (params.optionalText_read "model").bind fun model => .nothing _

variable {capability} {params : Params}

theorem exists_generate_iff :
    (∃ rules, capability.spec.generate params = .ok rules) ↔
      ∀ parameter ∈ capability.parameters, parameter.Accepts params :=
  (capability.generate_read params).exists_ok_iff

/-- A needed parameter that is unset is what the capability is refused for, whatever else is
wrong. -/
theorem generate_of_unset {name : String} (needed : name ∈ capability.spec.required)
    (unset : params.Unset name) :
    capability.spec.generate params = .error (.missing name) := by
  obtain ⟨parameter, rest, parameters, rfl, isNeeded⟩ :=
    capability.exists_parameters_of_required needed
  have refused : ¬ parameter.Accepts params := by
    rw [Parameter.accepts_iff]
    exact fun accepts => accepts.1 ⟨isNeeded, unset⟩
  have read := capability.generate_read params
  rw [parameters] at read
  cases generated : capability.spec.generate params with
  | ok rules =>
      rw [generated] at read
      exact absurd (read parameter List.mem_cons_self) refused
  | error cause =>
      rw [generated] at read
      obtain ⟨before, blamed, after, cut, accepted, blames⟩ := read
      cases before with
      | cons first others =>
          obtain ⟨rfl, _⟩ := List.cons.inj cut
          exact absurd (accepted parameter List.mem_cons_self) refused
      | nil =>
          obtain ⟨rfl, _⟩ := List.cons.inj cut
          cases cause with
          | missing name => rw [blames.1]
          | invalid name problem => exact absurd blames.2 (Parameter.not_misgiven_of_unset unset)

/-- Where all that is needed is set, a refusal is for a parameter that is set to something
else than it has to be. -/
theorem invalid_of_generate (set : ∀ name ∈ capability.spec.required, ¬ params.Unset name)
    {cause : CapabilityError} (refused : capability.spec.generate params = .error cause) :
    ∃ parameter ∈ capability.parameters, ∃ problem,
      cause = .invalid parameter.name problem ∧ parameter.Misgiven params := by
  have read := capability.generate_read params
  rw [refused] at read
  obtain ⟨before, parameter, after, parameters, _, blames⟩ := read
  have isRead : parameter ∈ capability.parameters := by
    rw [parameters]
    exact List.mem_append_right _ List.mem_cons_self
  cases cause with
  | missing name =>
      obtain ⟨_, needed, unset⟩ := blames
      exact absurd unset (set _ (capability.mem_required_of_needed isRead needed))
  | invalid name problem =>
      obtain ⟨rfl, misgiven⟩ := blames
      exact ⟨parameter, isRead, problem, rfl, misgiven⟩

/-- Where all that is needed is set, the values alone decide. -/
theorem exists_generate_iff_of_set (set : ∀ name ∈ capability.spec.required, ¬ params.Unset name) :
    (∃ rules, capability.spec.generate params = .ok rules) ↔
      ∀ parameter ∈ capability.parameters, ¬ parameter.Misgiven params := by
  rw [exists_generate_iff]
  refine forall₂_congr fun parameter isRead => ?_
  rw [Parameter.accepts_iff, and_iff_right]
  exact fun ⟨needed, unset⟩ => set _ (capability.mem_required_of_needed isRead needed) unset

end Parameters

end BuiltinUse

/-! ### Rules -/

theorem Params.isBlankText_of_mem {text : String} {char : Char} (member : char ∈ text.toList)
    (visible : Text.isBlank char = false) : isBlankText text = false := by
  have kept : Text.trimChars text.toList ≠ [] := by
    intro nothing
    rw [Text.trimChars, List.reverse_eq_nil_iff, List.dropWhile_eq_nil_iff] at nothing
    rw [← List.takeWhile_append_dropWhile (p := Text.isBlank) (l := text.toList),
      List.mem_append] at member
    have blank : Text.isBlank char = true := by
      rcases member with before | after
      · exact List.mem_takeWhile_imp before
      · exact nothing char (List.mem_reverse.mpr after)
    rw [visible] at blank
    cases blank
  rw [isBlankText, ← Bool.not_eq_true, String.isEmpty_iff, ← String.toList_inj, Text.trim,
    String.toList_ofList]
  exact kept

/-- A path without a slash has one segment at most. -/
theorem Path.slash_mem_of_clean {path : String} (long : 2 ≤ (clean path).length) :
    '/' ∈ path.toList := by
  by_contra free
  have short : (push [] (String.ofList path.toList)).length ≤ 1 := by
    unfold push
    split
    · simp
    · split <;> simp
  rw [clean, rawSegments, Text.splitOn_of_not_mem free, resolve, List.length_reverse] at long
  exact absurd (long.trans short) (by decide)

/-- The rule passes the checks of rules, and keeps its methods when it is prepared. -/
structure Rule.Installable (rule : Rule) : Prop where
  sound : rule.Sound
  kept : rule.prepare.methods = rule.methods

/-- A rule with one constraint that asks for no headers, on a path with a slash. -/
theorem Rule.installable_onMethods {path : String} {methods : List String}
    {constraint : Constraint} (rooted : '/' ∈ path.toList) (nonempty : methods ≠ [])
    (tokens : ∀ method ∈ methods, Text.Ascii.isToken method = true ∧
      Text.Ascii.upper method = method)
    (noHeaders : constraint.headers = Keyed.empty) :
    (onMethods path methods constraint).Installable := by
  have only : ∀ entry ∈ (onMethods path methods constraint).methods.entries,
      entry.1 ∈ methods ∧ entry.2 = constraint := by
    intro entry member
    have found := Keyed.get?_eq_some_iff.mpr member
    rw [get?_onMethods, Option.ite_none_right_eq_some, Option.some.injEq] at found
    exact ⟨found.1, found.2.symm⟩
  refine ⟨⟨?_, ?_, fun entry member => ?_⟩, ?_⟩
  · rw [onMethods_path]
    exact Params.isBlankText_of_mem rooted (by decide)
  · obtain ⟨method, rest, rfl⟩ := List.exists_cons_of_ne_nil nonempty
    have found : (onMethods path (method :: rest) constraint).methods.get? method =
        some constraint := by
      rw [get?_onMethods, if_pos List.mem_cons_self]
    rw [Keyed.get?_eq_some_iff] at found
    exact List.isEmpty_eq_false_iff.mpr (List.ne_nil_of_mem found)
  · obtain ⟨isMethod, same⟩ := only entry member
    obtain ⟨token, upper⟩ := tokens entry.1 isMethod
    rw [MethodSound, upper, same, noHeaders]
    exact ⟨token, List.forall_mem_nil _⟩
  · have upper : ((onMethods path methods constraint).methods.entries.map fun entry =>
        (Text.Ascii.upper entry.1, entry.2)) = (onMethods path methods constraint).methods.entries := by
      refine (List.map_congr_left fun entry member => ?_).trans (List.map_id _)
      rw [(tokens entry.1 (only entry member).1).2]
      rfl
    rw [prepare]
    simp only [upper, Keyed.ofList_entries]

namespace BuiltinUse

theorem installable_of_generate {capability : BuiltinUse} {params : Params} {rules : List Rule}
    (generated : capability.spec.generate params = .ok rules) :
    rules ≠ [] ∧ ∀ rule ∈ rules, rule.Installable := by
  have aboutBody : ∀ body : BodyUse, 2 ≤ (body.path params).length →
      body.generate params = .ok rules → rules ≠ [] ∧ ∀ rule ∈ rules, rule.Installable := by
    intro body long made
    obtain ⟨pattern, constraint, rfl, asks, clean, _⟩ := BodyUse.exists_of_generate made
    refine ⟨List.cons_ne_nil _ _, List.forall_mem_singleton.mpr ?_⟩
    exact Rule.installable_onMethods (Path.slash_mem_of_clean (clean ▸ long)) (by decide)
      (by decide) asks.headers
  have aboutRepository : ∀ repository : RepositoryUse,
      repository.generate params = .ok rules →
        rules ≠ [] ∧ ∀ rule ∈ rules, rule.Installable := by
    intro repository made
    obtain ⟨repo, constraint, _, asks, rfl⟩ := RepositoryUse.exists_of_generate made
    refine ⟨List.cons_ne_nil _ _, List.forall_mem_singleton.mpr ?_⟩
    refine Rule.installable_onMethods ?_ ?_ ?_ asks.headers
    · simp [RepositoryUse.pattern, String.toList_append]
    · cases repository <;> decide
    · cases repository <;> decide
  cases capability with
  | fullAccess =>
      obtain rfl := Except.ok.inj generated
      refine ⟨List.cons_ne_nil _ _, List.forall_mem_singleton.mpr ?_⟩
      change (Rule.onMethods "/**" Builtin.allMethods .unrestricted).Installable
      exact Rule.installable_onMethods (by decide) (by decide) (by decide) rfl
  | readChannels =>
      obtain rfl := Except.ok.inj generated
      refine ⟨List.cons_ne_nil _ _, List.forall_mem_map.mpr fun path member => ?_⟩
      have rooted : ∀ path ∈ ["/api/conversations.list", "/api/conversations.history"],
          '/' ∈ path.toList := by decide
      change (Rule.onMethods path ["GET"] .unrestricted).Installable
      exact Rule.installable_onMethods (rooted path member) (by decide) (by decide) rfl
  | postAs => exact aboutBody .postAs (Nat.le_refl 2) generated
  | chatCompletion => exact aboutBody .chatCompletion (Nat.le_succ 2) generated
  | readRepo => exact aboutRepository .readRepo generated
  | comment => exact aboutRepository .comment generated
  | createIssue => exact aboutRepository .createIssue generated

end BuiltinUse

/-! ### Expansion -/

namespace Registry

variable {registry : Registry} {integration name : String} {spec : CapabilitySpec}

theorem expand_one (registry : Registry) (integration id : String) (use : CapabilityUse)
    (own : List Rule) :
    registry.expand integration [⟨id, [use], own⟩] =
      (registry.rulesOf integration (callerKey id) use).map fun rules =>
        [⟨id, [], own ++ rules⟩] := by
  simp only [expand, expandCaller, List.mapM_cons, List.mapM_nil]
  cases registry.rulesOf integration (callerKey id) use with
  | error error => rfl
  | ok rules => simp [bind, Except.bind, pure, Except.pure, Except.map]

/-- A known capability with known parameters stands for what its generator makes of them. -/
theorem rulesOf_of_known (known : registry.lookup integration name = some spec)
    {params : Params} (accepted : ∀ key ∈ params.keys, spec.accepts key = true)
    (caller : String) :
    registry.rulesOf integration caller ⟨name, params⟩ =
      (spec.generate params).mapError (.refusedCapability integration caller name) := by
  have nothingUnknown : (params.keys.find? fun key => !spec.accepts key) = none := by
    simpa using accepted
  simp only [rulesOf, known, nothingUnknown]
  cases spec.generate params <;> rfl

theorem generates_integrationKey {use : CapabilityUse} :
    registry.Generates (integrationKey integration) use ↔ registry.Generates integration use := by
  rw [Generates, Generates, lookup_integrationKey]

theorem generate_of_generates {use : CapabilityUse}
    (known : registry.lookup integration use.name = some spec)
    (generates : registry.Generates integration use) :
    spec.generate use.params = .ok (registry.generated integration use) := by
  obtain ⟨_, same, _, rules, generated⟩ := generates
  cases known.symm.trans same
  simp only [Registry.generated, known, generated]

end Registry

namespace BuiltinUse

/-- What comes of a caller that declares the capability with some parameters, besides rules of
its own. -/
structure Expands (capability : BuiltinUse) (integration id : String) (params : Params)
    (own : List Rule) (result : Except PolicyError (List AllowCaller)) : Prop where
  /-- The first parameter that is not declared is reported. -/
  undeclared : ∀ before key after, params.keys = before ++ key :: after →
    (∀ other ∈ before, capability.spec.accepts other = true) →
    capability.spec.accepts key = false →
      result = .error (.unknownParameter integration (callerKey id) capability.title key)
  missing : (∀ key ∈ params.keys, capability.spec.accepts key = true) →
    ∀ name ∈ capability.spec.required, params.Unset name →
      result = .error
        (.refusedCapability integration (callerKey id) capability.title (.missing name))
  invalid : (∀ key ∈ params.keys, capability.spec.accepts key = true) →
    (∀ name ∈ capability.spec.required, ¬ params.Unset name) →
      ((∃ name problem, result = .error (.refusedCapability integration (callerKey id)
          capability.title (.invalid name problem))) ↔
        ∃ parameter ∈ capability.parameters, parameter.Misgiven params)
  /-- The error names a parameter that is given something else than it has to be. -/
  blamed : (∀ key ∈ params.keys, capability.spec.accepts key = true) →
    (∀ name ∈ capability.spec.required, ¬ params.Unset name) →
      ∀ error, result = .error error → ∃ parameter ∈ capability.parameters, ∃ problem,
        error = .refusedCapability integration (callerKey id) capability.title
          (.invalid parameter.name problem) ∧ parameter.Misgiven params
  total : (∀ key ∈ params.keys, capability.spec.accepts key = true) →
    (∀ name ∈ capability.spec.required, ¬ params.Unset name) →
    (∀ parameter ∈ capability.parameters, ¬ parameter.Misgiven params) →
      ∃ expanded, result = .ok expanded
  /-- What is generated comes after the caller's own rules and can be installed. -/
  valid : ∀ expanded, result = .ok expanded → ∃ rules,
    expanded = [⟨id, [], own ++ rules⟩] ∧ rules ≠ [] ∧
      Validation.rules integration id false rules = .ok () ∧
      ∀ rule ∈ rules, rule.prepare.methods = rule.methods

variable {capability : BuiltinUse} {registry : Registry} {integration : String}

theorem expands (known : registry.lookup integration capability.title = some capability.spec)
    (id : String) (params : Params) (own : List Rule) :
    capability.Expands integration id params own
      (registry.expand integration [⟨id, [⟨capability.title, params⟩], own⟩]) := by
  rw [Registry.expand_one]
  constructor
  case undeclared =>
    intro before key after given accepted unaccepted
    rw [Registry.rulesOf_eq_error_iff.mpr (.unknownParameter known given accepted unaccepted)]
    rfl
  case missing =>
    intro accepted name needed unset
    rw [Registry.rulesOf_of_known known accepted, generate_of_unset needed unset]
    rfl
  case invalid =>
    intro accepted set
    have values := exists_generate_iff_of_set set
    rw [Registry.rulesOf_of_known known accepted]
    cases generated : capability.spec.generate params with
    | ok rules =>
        have wellGiven := values.mp ⟨rules, generated⟩
        exact iff_of_false (fun ⟨_, _, impossible⟩ => by cases impossible)
          fun ⟨parameter, isRead, misgiven⟩ => wellGiven parameter isRead misgiven
    | error cause =>
        obtain ⟨parameter, isRead, problem, rfl, misgiven⟩ := invalid_of_generate set generated
        exact iff_of_true ⟨_, problem, rfl⟩ ⟨parameter, isRead, misgiven⟩
  case blamed =>
    intro accepted set error failed
    rw [Registry.rulesOf_of_known known accepted] at failed
    cases generated : capability.spec.generate params with
    | ok rules =>
        rw [generated] at failed
        cases failed
    | error cause =>
        rw [generated] at failed
        obtain ⟨parameter, isRead, problem, rfl, misgiven⟩ := invalid_of_generate set generated
        exact ⟨parameter, isRead, problem, (Except.error.inj failed).symm, misgiven⟩
  case total =>
    intro accepted set wellGiven
    obtain ⟨rules, generated⟩ := (exists_generate_iff_of_set set).mpr wellGiven
    rw [Registry.rulesOf_of_known known accepted, generated]
    exact ⟨_, rfl⟩
  case valid =>
    intro expanded succeeded
    obtain ⟨rules, made, rfl⟩ := Checks.map_eq_ok_iff.mp succeeded
    obtain ⟨generates, rfl⟩ := Registry.rulesOf_eq_ok_iff.mp made
    obtain ⟨nonempty, installable⟩ :=
      installable_of_generate (Registry.generate_of_generates known generates)
    refine ⟨_, rfl, nonempty, Validation.rules_eq_ok_iff.mpr ?_, fun rule member =>
      (installable rule member).kept⟩
    exact ⟨fun rule member => (installable rule member).sound, nofun⟩

end BuiltinUse

/-! ### Batches -/

/-- A batch that passes all checks up to the expansion. It declares only capabilities that are
always there, and they expand. -/
structure Registry.Expandable (registry : Registry) (entries : List AllowEntry) : Prop where
  names : ∃ keys,
    Validation.integrationKeys 0 [] (entries.map AllowEntry.integration) = .ok keys
  callers : ∀ entry ∈ entries, Validation.uniqueCallers (integrationKey entry.integration) []
    (entry.callers.map AllowCaller.id) = .ok ()
  rules : ∀ entry ∈ entries, ∀ caller ∈ entry.callers,
    Validation.rules (integrationKey entry.integration) caller.id true caller.rules = .ok ()
  builtin : ∀ entry ∈ entries, ∀ caller ∈ entry.callers, ∀ use ∈ caller.capabilities,
    ∃ capability : BuiltinUse,
      registry.lookup entry.integration use.name = some capability.spec
  expands : ∀ entry ∈ entries, ∃ expanded,
    registry.expand entry.integration entry.callers = .ok expanded

theorem Registry.Expandable.exists_build {registry : Registry} {entries : List AllowEntry}
    (expandable : registry.Expandable entries) :
    ∃ built, Allowlist.build registry entries = .ok built := by
  obtain ⟨keys, checked⟩ := expandable.names
  refine ⟨_, Allowlist.build_eq_ok_iff.mpr ⟨⟨(Validation.batchKeys_eq_ok_iff.mp checked).1,
    fun entry isEntry => ?_⟩, rfl⟩⟩
  have generates : ∀ caller ∈ entry.callers, ∀ use ∈ caller.capabilities,
      registry.Generates (integrationKey entry.integration) use := by
    simpa only [exists_expand_iff, generates_integrationKey] using
      expandable.expands entry isEntry
  have own := fun caller isCaller =>
    Validation.rules_eq_ok_iff.mp (expandable.rules entry isEntry caller isCaller)
  refine ⟨?_, fun caller isCaller => (own caller isCaller).2 rfl, generates,
    fun caller isCaller rule isRule => ?_⟩
  · have distinct := (Validation.uniqueCallers_eq_ok_iff.mp (expandable.callers entry isEntry)).1
    rwa [List.map_map] at distinct
  · rcases List.mem_append.mp isRule with isOwn | isGenerated
    · exact (own caller isCaller).1 rule isOwn
    · obtain ⟨use, isUse, made⟩ := List.mem_flatMap.mp isGenerated
      obtain ⟨capability, known⟩ := expandable.builtin entry isEntry caller isCaller use isUse
      rw [← lookup_integrationKey] at known
      have generated := generate_of_generates known (generates caller isCaller use isUse)
      exact ((BuiltinUse.installable_of_generate generated).2 rule made).sound

/-- The capabilities that are always there accept the parameters in their tables and no others,
are found for their own integrations or for all, and expand as `BuiltinUse.Expands` says. So
nothing but a failing expansion keeps a batch from being built, if it declares only such
capabilities and passes the earlier checks. -/
theorem Registry.builtins_expand :
    (∀ (capability : BuiltinUse) (name : String), capability.spec.accepts name = true ↔
      name ∈ capability.parameters.map Parameter.name) ∧
    (∀ capability : BuiltinUse, capability.spec.required =
      (capability.parameters.filter Parameter.needed).map Parameter.name) ∧
    (∀ integration name spec, Registry.builtin.lookup integration name = some spec ↔
      ∃ capability : BuiltinUse, capability.title = name ∧ capability.spec = spec ∧
        (capability.home = integrationKey integration ∨
          capability.home = globalIntegration)) ∧
    (∀ (registry : Registry) (integration : String) (capability : BuiltinUse),
      registry.lookup integration capability.title = some capability.spec →
        ∀ id params own, capability.Expands integration id params own
          (registry.expand integration [⟨id, [⟨capability.title, params⟩], own⟩])) ∧
    ∀ (registry : Registry) (entries : List AllowEntry), registry.Expandable entries →
      ∃ built, Allowlist.build registry entries = .ok built := by
  refine ⟨BuiltinUse.accepts_iff, BuiltinUse.required_eq, fun _ _ _ => ?_, fun _ _ _ => ?_,
    fun _ _ => Registry.Expandable.exists_build⟩
  · exact BuiltinUse.builtin_lookup_eq_some_iff
  · exact BuiltinUse.expands

namespace BuiltinSample

/-- Issues of one repository with some labels. -/
def issues (repo labels : Json) : Params :=
  (Keyed.empty.insert "labels" labels).insert "repo" repo

/-- Issues that can be opened. -/
def possible : Params := issues (.string "octo/hello") (.ofStrings ["bug"])

theorem known : Registry.builtin.lookup "GitHub" "create_issue" =
    some BuiltinUse.createIssue.spec :=
  BuiltinUse.builtin_lookup_eq_some_iff.mpr
    ⟨.createIssue, rfl, rfl, Or.inl (by decide +kernel)⟩

theorem possible_accepted :
    ∀ parameter ∈ BuiltinUse.createIssue.parameters, parameter.Accepts possible := by
  have repository : IsRepository "octo/hello" "octo" "hello" :=
    ⟨by decide, by decide, by decide, by decide +kernel⟩
  refine List.forall_mem_cons.mpr ⟨Or.inr ?_, List.forall_mem_singleton.mpr (Or.inr ?_)⟩
  · exact ⟨.string "octo/hello", rfl, _, _, _, rfl, repository⟩
  · exact ⟨.ofStrings ["bug"], rfl, ["bug"], rfl⟩

/-- A batch with a caller that opens such issues. -/
def entries : List AllowEntry :=
  [⟨"GitHub", [⟨"bot", [⟨"create_issue", possible⟩],
    [(Rule.onPath "/user").withMethod "get" .unrestricted]⟩]⟩]

end BuiltinSample

open BuiltinSample in
/-- Issues that can be opened, some without a repository, some whose labels are no list, and
some with a title, which is not declared. -/
theorem Registry.builtins_expand_sample :
    (∃ expanded, Registry.builtin.expand "GitHub"
      [⟨"", [⟨"create_issue", possible⟩], []⟩] = .ok expanded) ∧
    Registry.builtin.expand "GitHub"
      [⟨"", [⟨"create_issue", issues .null (.bool true)⟩], []⟩] =
        .error (.refusedCapability "GitHub" "*" "create_issue" (.missing "repo")) ∧
    (∃ name problem, Registry.builtin.expand "GitHub"
      [⟨"", [⟨"create_issue", issues (.string "octo/hello") (.bool true)⟩], []⟩] =
        .error (.refusedCapability "GitHub" "*" "create_issue" (.invalid name problem))) ∧
    Registry.builtin.expand "GitHub"
      [⟨"", [⟨"create_issue", possible.insert "title" .null⟩], []⟩] =
        .error (.unknownParameter "GitHub" "*" "create_issue" "title") ∧
    ∃ built, Allowlist.build Registry.builtin entries = .ok built := by
  obtain ⟨_, _, _, expands, batch⟩ := Registry.builtins_expand
  have each := fun params => expands Registry.builtin "GitHub" .createIssue known "" params []
  have works := (each possible).total (by decide +kernel) (by decide) fun parameter isRead =>
    (Parameter.accepts_iff.mp (possible_accepted parameter isRead)).2
  refine ⟨works, ?_, ?_, ?_, batch _ _ ?_⟩
  · exact (each _).missing (by decide +kernel) "repo" (by decide) (by decide)
  · refine ((each _).invalid (by decide +kernel) (by decide)).mpr ?_
    refine ⟨⟨"labels", .listOfTexts, false⟩, by decide, .bool true, rfl, nofun, ?_⟩
    exact fun ⟨_, impossible⟩ => by cases impossible
  · exact (each _).undeclared ["labels", "repo"] "title" [] (by decide +kernel) (by decide)
      (by decide)
  · constructor
    · exact ⟨["github"], by decide +kernel⟩
    · decide +kernel
    · decide +kernel
    · exact List.forall_mem_singleton.mpr (List.forall_mem_singleton.mpr
        (List.forall_mem_singleton.mpr ⟨.createIssue, known⟩))
    · have generates := Registry.exists_expand_iff.mp works _ List.mem_cons_self
      exact List.forall_mem_singleton.mpr (Registry.exists_expand_iff.mpr
        (List.forall_mem_singleton.mpr generates))

end CallPolicy
