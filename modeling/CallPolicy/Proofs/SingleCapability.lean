import CallPolicy.Proofs.Changes
import CallPolicy.Proofs.Narrowing
import CallPolicy.Proofs.Prepared

/-!
Contract: decisions about a caller to whom an engine gives one capability and nothing else.

Owns:
- engines that give a caller only one capability, and the calls that make them so;
- the rules that such an engine holds for the caller;
- the decisions of such an engine, when the capability stands for one rule that has the
  same constraint for all its methods.

Does not own: particular capabilities.
-/

namespace CallPolicy

/-- The rule with one constraint for several methods. -/
def Rule.onMethods (path : String) (methods : List String) (constraint : Constraint) : Rule :=
  methods.foldl (fun rule method => rule.withMethod method constraint) (.onPath path)

namespace Rule

variable {path : String} {methods : List String} {constraint : Constraint}

theorem onMethods_path : (onMethods path methods constraint).path = path := by
  have kept : ∀ rule : Rule, (methods.foldl (fun rule method =>
      rule.withMethod method constraint) rule).path = rule.path := by
    induction methods with
    | nil => exact fun _ => rfl
    | cons method rest inductionHypothesis => exact fun rule => inductionHypothesis _
  exact kept _

theorem get?_onMethods (name : String) :
    (onMethods path methods constraint).methods.get? name =
      if name ∈ methods then some constraint else none := by
  have stored : ∀ rule : Rule, (methods.foldl (fun rule method =>
      rule.withMethod method constraint) rule).methods.get? name =
        if name ∈ methods then some constraint else rule.methods.get? name := by
    induction methods with
    | nil => exact fun _ => rfl
    | cons method rest inductionHypothesis =>
        intro rule
        rw [List.foldl_cons, inductionHypothesis, withMethod, Keyed.get?_insert]
        by_cases inRest : name ∈ rest
        · simp [inRest]
        · by_cases same : method = name <;> simp [inRest, same, eq_comm (a := name)]
  exact stored _

theorem unambiguous_onMethods : (onMethods path methods constraint).Unambiguous := by
  have only : ∀ entry ∈ (onMethods path methods constraint).methods.entries,
      entry.2 = constraint := by
    intro entry member
    have found := Keyed.get?_eq_some_iff.mpr member
    rw [get?_onMethods, Option.ite_none_right_eq_some] at found
    exact (Option.some.inj found.2).symm
  intro left isLeft right isRight _
  rw [only left isLeft, only right isRight]

end Rule

/-- The engine gives a caller of an integration one capability and nothing else: it was
built with a caller that declares only this capability, with none that is for everyone, and
no rule is tried against the caller. -/
structure Engine.GivesOnly (engine : Engine) (integration caller : String)
    (use : CapabilityUse) : Prop where
  installed : ∃ callers index id,
    Allowlist.buildIndex engine.registry (integrationKey integration) callers = .ok index ∧
      engine.allowlist.get? (integrationKey integration) = some index ∧
      ⟨id, [use], []⟩ ∈ callers ∧ callerKey id = callerKey caller ∧
      ∀ other ∈ callers, callerKey other.id ≠ wildcardCaller
  undenied : engine.denylist.triedFor integration caller = []

theorem Registry.lookup_integrationKey (registry : Registry) (integration name : String) :
    registry.lookup (integrationKey integration) name = registry.lookup integration name := by
  rw [lookup, lookup, integrationKey_integrationKey]

theorem Allowlist.chooseFrom_singleton (rule : Rule) (segments : List String) (method : String) :
    chooseFrom [rule] [] segments method =
      if rule.covers segments then rule.methods.get? method else none := by
  rw [chooseFrom, scan, scan, scan]
  by_cases covered : rule.covers segments = true
  · rw [if_pos covered, if_pos covered]
    cases rule.methods.get? method <;> rfl
  · rw [if_neg covered, if_neg covered]

/-- An installed caller that declares one capability has nothing else, where no other caller
is for everyone and no rule is tried against it. -/
theorem Engine.givesOnly_setAllowed {engine : Engine} {integration caller id : String}
    {use : CapabilityUse} {callers : List AllowCaller} (isCaller : ⟨id, [use], []⟩ ∈ callers)
    (sameKey : callerKey id = callerKey caller)
    (noWildcard : ∀ other ∈ callers, callerKey other.id ≠ wildcardCaller)
    (undenied : engine.denylist.triedFor integration caller = [])
    (accepted : (engine.call (.setAllowed integration callers)).1 = .ok ()) :
    (engine.call (.setAllowed integration callers)).2.GivesOnly integration caller use := by
  rw [call_eq, Command.asks] at accepted ⊢
  cases set : engine.allowlist.set engine.registry integration callers with
  | error error =>
      rw [set] at accepted
      cases accepted
  | ok allowlist =>
      obtain ⟨_, callersAccepted, isAllowlist⟩ := Allowlist.set_eq_ok_iff.mp set
      have built := Allowlist.buildIndex_eq_ok_iff.mpr ⟨callersAccepted, rfl⟩
      have found : allowlist.get? (integrationKey integration) = some
          (Allowlist.indexOf engine.registry (integrationKey integration) callers) := by
        rw [isAllowlist, Keyed.get?_insert, if_pos rfl]
      exact ⟨⟨callers, _, id, built, found, isCaller, sameKey, noWildcard⟩, undenied⟩

namespace Engine.GivesOnly

variable {engine : Engine} {integration caller : String} {use : CapabilityUse}
  (only : engine.GivesOnly integration caller use)

include only

theorem generates {spec : CapabilitySpec}
    (known : engine.registry.lookup integration use.name = some spec) :
    ∃ rules, spec.generate use.params = .ok rules := by
  obtain ⟨callers, index, id, built, _, isCaller, _⟩ := only.installed
  obtain ⟨accepted, _⟩ := Allowlist.buildIndex_eq_ok_iff.mp built
  obtain ⟨other, found, _, generated⟩ :=
    accepted.generates _ isCaller use (List.mem_singleton_self use)
  rw [Registry.lookup_integrationKey, known] at found
  cases found
  exact generated

theorem heldFor : engine.allowlist.heldFor integration caller =
    (engine.registry.generated (integrationKey integration) use).map Rule.prepare := by
  obtain ⟨callers, index, id, built, found, isCaller, sameKey, _⟩ := only.installed
  obtain ⟨accepted, rfl⟩ := Allowlist.buildIndex_eq_ok_iff.mp built
  have first : callers.find? (fun declared => callerKey declared.id = callerKey id) =
      some ⟨id, [use], []⟩ := find?_name_of_mem accepted.distinct isCaller
  rw [Allowlist.heldFor_of_get? found, Allowlist.rulesOf, Allowlist.get?_indexOf accepted,
    ← sameKey, first]
  simp [Allowlist.installed, Registry.declared]

theorem heldFor_wildcard : engine.allowlist.heldFor integration wildcardCaller = [] := by
  obtain ⟨callers, index, id, built, found, _, _, noWildcard⟩ := only.installed
  obtain ⟨accepted, rfl⟩ := Allowlist.buildIndex_eq_ok_iff.mp built
  have absent : callers.find? (fun declared => callerKey declared.id = callerKey wildcardCaller) =
      none := by
    rw [List.find?_eq_none]
    intro declared isCaller same
    exact noWildcard declared isCaller (of_decide_eq_true same)
  rw [Allowlist.heldFor_of_get? found, Allowlist.rulesOf, Allowlist.get?_indexOf accepted, absent]
  rfl

/-- With one rule and one constraint, a request is allowed when the rule matches its path and
has its method, and the constraint is met. -/
theorem authorize_eq_allow_iff {spec : CapabilitySpec} {path : String} {methods : List String}
    {constraint : Constraint}
    (known : engine.registry.lookup integration use.name = some spec)
    (generated : spec.generate use.params = .ok [.onMethods path methods constraint])
    (upperCase : ∀ method ∈ methods, Text.Ascii.upper method = method) (head : RequestHead)
    (body : Body) :
    (engine.authorize integration caller head body).1 = .allow ↔
      ∃ segments, Path.ofRequest? head.path = some segments ∧
        Path.matchSegments (Path.clean path) segments = true ∧
        Text.Ascii.upper head.method ∈ methods ∧ (constraint.met head body).1 = true := by
  have held : engine.allowlist.heldFor integration caller =
      [(Rule.onMethods path methods constraint).prepare] := by
    rw [only.heldFor, Registry.generated, Registry.lookup_integrationKey, known]
    simp only [generated, List.map_singleton]
  have answers : ∀ other, (Rule.onMethods path methods constraint).prepare.methods.get?
      (Text.Ascii.upper head.method) = some other ↔
        Text.Ascii.upper head.method ∈ methods ∧ constraint = other := by
    intro other
    rw [Rule.get?_prepare_eq_some_iff Rule.unambiguous_onMethods]
    simp only [Rule.get?_onMethods, Option.ite_none_right_eq_some, Option.some.injEq]
    constructor
    · rintro ⟨name, ⟨isMethod, same⟩, isUpper⟩
      rw [← isUpper, upperCase name isMethod]
      exact ⟨isMethod, same⟩
    · rintro ⟨isMethod, same⟩
      exact ⟨_, ⟨isMethod, same⟩, Text.Ascii.upper_upper _⟩
  rw [Engine.authorize_eq_allow_iff, only.undenied, and_iff_left (by simp), grants,
    Allowlist.find?_eq, held, only.heldFor_wildcard, Option.any_eq_true]
  simp only [Option.bind_eq_some_iff, Allowlist.chooseFrom_singleton,
    Option.ite_none_right_eq_some, answers, Rule.prepare_covers, Rule.reaches, Rule.onMethods_path]
  constructor
  · rintro ⟨_, ⟨segments, readable, covered, isMethod, rfl⟩, isMet⟩
    exact ⟨segments, readable, covered, isMethod, isMet⟩
  · rintro ⟨segments, readable, covered, isMethod, isMet⟩
    exact ⟨constraint, ⟨segments, readable, covered, isMethod, rfl⟩, isMet⟩

end Engine.GivesOnly

end CallPolicy
