import CallPolicy.Proofs.Builtins
import CallPolicy.Proofs.Changes

/-!
Contract: required parameters that a caller leaves out.

Owns:
- what it means that a generator checks the parameters its capability needs;
- that expansion does not look at the list of these parameters;
- that callers who leave one out are refused, by an expansion and by every change that makes one,
  exactly where the generator checks.

The list of needed parameters is only shown to users. Nothing compares it with the parameters of
a caller, so the generator of a capability has to do so, as the built-in ones do.
-/

namespace CallPolicy

/-- The generator refuses parameters that lack one that the capability needs. Only declared
parameters ever reach it. -/
def CapabilitySpec.ChecksRequired (spec : CapabilitySpec) : Prop :=
  ∀ param ∈ spec.required, ∀ params : Params,
    (∀ key ∈ params.keys, spec.accepts key = true) → params.Unset param →
      ∃ cause, spec.generate params = .error cause

/-- The capability without its list of needed parameters. -/
def CapabilitySpec.withoutRequired (spec : CapabilitySpec) : CapabilitySpec :=
  { spec with required := [] }

/-- One of the callers declares the capability without a parameter that it needs. -/
def CapabilitySpec.LeftIncomplete (spec : CapabilitySpec) (name : String)
    (callers : List AllowCaller) : Prop :=
  ∃ caller ∈ callers, ∃ params : Params, ⟨name, params⟩ ∈ caller.capabilities ∧
    ∃ param ∈ spec.required, params.Unset param

namespace Registry

/-- The registries keep the same capabilities, apart from the lists of needed parameters. -/
def SameButRequired (left right : Registry) : Prop :=
  ∀ key name, (left.ofKey? key name).map CapabilitySpec.withoutRequired =
    (right.ofKey? key name).map CapabilitySpec.withoutRequired

/-- The callers of an integration are not expanded, so that nothing is installed. -/
structure Refuses (registry : Registry) (integration : String) (callers : List AllowCaller) :
    Prop where
  expand : ∃ error, registry.expand integration callers = .error error
  set : ∀ allowlist : Allowlist, ∃ error,
    allowlist.set registry integration callers = .error error
  build : ∀ entries, ⟨integration, callers⟩ ∈ entries →
    ∃ error, Allowlist.build registry entries = .error error
  reload : ∀ engine : Engine, engine.registry = registry → ∀ allowed denied,
    ⟨integration, callers⟩ ∈ allowed →
      ∃ error, engine.call (.reload allowed denied) = (.error error, engine)

variable {registry : Registry} {integration name : String} {spec : CapabilitySpec}
  {callers : List AllowCaller}

/-! ### Expansion does not look at the list -/

section Unconsulted

variable {left right : Registry}

/-- A capability can be registered without its list of needed parameters. -/
theorem sameButRequired_register (registry : Registry) (integration name : String)
    (spec : CapabilitySpec) :
    (registry.register integration name spec).SameButRequired
      (registry.register integration name spec.withoutRequired) := by
  intro key otherName
  rw [registry.ofKey?_register ⟨integration, name, spec⟩ key otherName,
    registry.ofKey?_register ⟨integration, name, spec.withoutRequired⟩ key otherName]
  by_cases slot : (integrationKey integration, name) = (key, otherName)
  · rw [Registration.slot, if_pos slot, Registration.slot, if_pos slot]
    rfl
  · rw [Registration.slot, if_neg slot, Registration.slot, if_neg slot]

theorem SameButRequired.lookup (same : left.SameButRequired right) (integration name : String) :
    (left.lookup integration name).map CapabilitySpec.withoutRequired =
      (right.lookup integration name).map CapabilitySpec.withoutRequired := by
  rw [Registry.lookup, Registry.lookup, Option.map_or, Option.map_or, same, same]

theorem SameButRequired.rulesOf (same : left.SameButRequired right) (integration caller : String)
    (use : CapabilityUse) :
    left.rulesOf integration caller use = right.rulesOf integration caller use := by
  have found := same.lookup integration use.name
  unfold Registry.rulesOf
  cases ofLeft : left.lookup integration use.name with
  | none =>
      rw [ofLeft, Option.map_none, eq_comm, Option.map_eq_none_iff] at found
      rw [found]
  | some spec =>
      rw [ofLeft, Option.map_some, eq_comm, Option.map_eq_some_iff] at found
      obtain ⟨other, ofRight, alike⟩ := found
      obtain ⟨params, _, generate⟩ := CapabilitySpec.mk.inj alike
      simp only [ofRight, CapabilitySpec.accepts, params, generate]

/-- Registries that differ in the lists of needed parameters only expand all callers alike. -/
theorem SameButRequired.expand (same : left.SameButRequired right) (integration : String)
    (callers : List AllowCaller) :
    left.expand integration callers = right.expand integration callers := by
  have rules (caller : String) :
      left.rulesOf integration caller = right.rulesOf integration caller :=
    funext (same.rulesOf integration caller)
  have callersAlike : left.expandCaller integration = right.expandCaller integration := by
    funext caller
    rw [Registry.expandCaller, Registry.expandCaller, rules]
  rw [Registry.expand, Registry.expand, callersAlike]

end Unconsulted

/-! ### Generators that check -/

/-- One capability that does not generate keeps all callers from being installed. -/
theorem refuses_of_not_generates {caller : AllowCaller} {use : CapabilityUse}
    (isCaller : caller ∈ callers) (isUse : use ∈ caller.capabilities)
    (ungenerated : ¬ registry.Generates integration use) :
    registry.Refuses integration callers := by
  have unaccepted : ¬ Allowlist.Accepted registry (integrationKey integration) callers :=
    fun accepted => ungenerated
      (generates_integrationKey.mp (accepted.generates caller isCaller use isUse))
  have build : ∀ entries, ⟨integration, callers⟩ ∈ entries →
      ∃ error, Allowlist.build registry entries = .error error := by
    intro entries isEntry
    cases built : Allowlist.build registry entries with
    | error error => exact ⟨error, rfl⟩
    | ok allowlist =>
        have accepted := (Allowlist.build_eq_ok_iff.mp built).1
        exact absurd (accepted.each _ isEntry) unaccepted
  refine ⟨?_, fun allowlist => ?_, build, ?_⟩
  · cases expanded : registry.expand integration callers with
    | error error => exact ⟨error, rfl⟩
    | ok made =>
        have generates := (expand_eq_ok_iff.mp expanded).1
        exact absurd (generates caller isCaller use isUse) ungenerated
  · cases installed : allowlist.set registry integration callers with
    | error error => exact ⟨error, rfl⟩
    | ok after => exact absurd (Allowlist.set_eq_ok_iff.mp installed).2.1 unaccepted
  · rintro engine rfl allowed denied isEntry
    obtain ⟨error, unbuilt⟩ := build allowed isEntry
    exact ⟨error, by rw [Engine.call_eq, Command.asks, unbuilt]; rfl⟩

theorem checksRequired_iff_refuses (known : registry.lookup integration name = some spec) :
    spec.ChecksRequired ↔
      ∀ callers, spec.LeftIncomplete name callers → registry.Refuses integration callers := by
  constructor
  · rintro checks callers ⟨caller, isCaller, params, isUse, param, needed, unset⟩
    refine refuses_of_not_generates isCaller isUse fun ⟨other, same, accepted, rules, generated⟩ => ?_
    cases known.symm.trans same
    obtain ⟨cause, refused⟩ := checks param needed params accepted unset
    rw [refused] at generated
    cases generated
  · intro refuses param needed params accepted unset
    obtain ⟨error, failed⟩ := (refuses [⟨"", [⟨name, params⟩], []⟩]
      ⟨_, List.mem_cons_self, params, List.mem_cons_self, param, needed, unset⟩).expand
    rw [expand_one, rulesOf_of_known known accepted] at failed
    cases generated : spec.generate params with
    | error cause => exact ⟨cause, rfl⟩
    | ok rules =>
        rw [generated] at failed
        cases failed

/-- Callers who leave out a required parameter are refused exactly for the capabilities whose
generators check, as those of all built-in ones do. Expansion itself never looks at the lists of
required parameters: registries that differ in these only expand all callers alike. -/
theorem required_parameters_checked :
    (∀ registry : Registry, ∀ integration name spec,
      registry.lookup integration name = some spec →
        (spec.ChecksRequired ↔
          ∀ callers, spec.LeftIncomplete name callers →
            registry.Refuses integration callers)) ∧
      (∀ integration name spec, Registry.builtin.lookup integration name = some spec →
        spec.ChecksRequired) ∧
      ∀ left right : Registry, left.SameButRequired right → ∀ integration callers,
        left.expand integration callers = right.expand integration callers := by
  refine ⟨fun _ _ _ _ => checksRequired_iff_refuses, fun integration name spec known => ?_,
    fun _ _ => SameButRequired.expand⟩
  obtain ⟨capability, _, rfl, _⟩ := BuiltinUse.builtin_lookup_eq_some_iff.mp known
  exact fun param needed params _ unset => ⟨_, BuiltinUse.generate_of_unset needed unset⟩

end Registry

namespace RequiredSample

/-- A capability that needs a team, but stands for the same rule without one. -/
def careless : CapabilitySpec :=
  (CapabilitySpec.optional [] fun _ =>
    .ok [(Rule.onPath "/repos").withMethod "GET" .unrestricted]).withRequired ["team"]

def registry : Registry := Registry.empty.register "github" "read" careless

/-- The registry in which it needs nothing. -/
def lenient : Registry := Registry.empty.register "github" "read" careless.withoutRequired

/-- A caller who names no team. -/
def callers : List AllowCaller := [⟨"ci", [⟨"read", Keyed.empty⟩], []⟩]

/-- A caller who posts under no name. -/
def unnamed : List AllowCaller := [⟨"bot", [⟨"post_as", Keyed.empty⟩], []⟩]

end RequiredSample

open RequiredSample in
/-- A required parameter can be left out where the generator does not check. -/
theorem Registry.required_parameter_unchecked :
    ¬ ∀ (registry : Registry) (integration name : String) (spec : CapabilitySpec),
      registry.lookup integration name = some spec →
        ∀ callers, spec.LeftIncomplete name callers →
          ∃ error, registry.expand integration callers = .error error := by
  intro enforced
  have known : registry.lookup "github" "read" = some careless := by
    rfl
  have incomplete : careless.LeftIncomplete "read" callers :=
    ⟨_, List.mem_cons_self, Keyed.empty, List.mem_cons_self, "team", by decide, Or.inl rfl⟩
  obtain ⟨error, failed⟩ := enforced registry "github" "read" careless known callers incomplete
  rw [callers, expand_one, rulesOf_of_known known (by decide)] at failed
  cases failed

open RequiredSample in
theorem Registry.required_parameters_checked_sample :
    Registry.builtin.Refuses "Slack" unnamed ∧
      registry.expand "github" callers = lenient.expand "github" callers := by
  obtain ⟨enforced, builtin, unconsulted⟩ := Registry.required_parameters_checked
  have known : Registry.builtin.lookup "Slack" "post_as" = some BuiltinUse.postAs.spec :=
    BuiltinUse.builtin_lookup_eq_some_iff.mpr ⟨.postAs, rfl, rfl, Or.inl (by decide +kernel)⟩
  refine ⟨(enforced _ _ _ _ known).mp (builtin _ _ _ known) unnamed ?_,
    unconsulted _ _ (Registry.sameButRequired_register _ _ _ careless) _ _⟩
  exact ⟨_, List.mem_cons_self, Keyed.empty, List.mem_cons_self, "username", by decide,
    Or.inl rfl⟩

end CallPolicy
