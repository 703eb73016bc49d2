import CallPolicy.Capability.Registry
import CallPolicy.Proofs.Checks

/-!
Contract: what expansion makes of declared callers.

Owns:
- the rules that a caller declares, those of its capabilities included, read off
  the declaration;
- when the capabilities of a caller can be expanded;
- expansion as the one function from the declaration to these rules.

Does not own: particular capabilities, and the checks of the rules.
-/

namespace CallPolicy.Registry

/-- The rules that a declared capability stands for; none if it stands for nothing. -/
def generated (registry : Registry) (integration : String) (use : CapabilityUse) : List Rule :=
  match registry.lookup integration use.name with
  | none => []
  | some spec =>
      match spec.generate use.params with
      | .ok rules => rules
      | .error _ => []

/-- The rules that a caller declares: its own, then those of its capabilities in the
order in which it declares them. -/
def declared (registry : Registry) (integration : String) (caller : AllowCaller) : List Rule :=
  caller.rules ++ caller.capabilities.flatMap (registry.generated integration)

/-- A declared capability is known, is given only parameters that it knows, and
generates rules from them. -/
def Generates (registry : Registry) (integration : String) (use : CapabilityUse) : Prop :=
  ∃ spec, registry.lookup integration use.name = some spec ∧
    (∀ param ∈ use.params.keys, spec.accepts param = true) ∧
      ∃ rules, spec.generate use.params = .ok rules

theorem rulesOf_eq_ok_iff {registry : Registry} {integration caller : String}
    {use : CapabilityUse} {rules : List Rule} :
    registry.rulesOf integration caller use = .ok rules ↔
      registry.Generates integration use ∧ rules = registry.generated integration use := by
  unfold rulesOf generated Generates
  cases registry.lookup integration use.name with
  | none => simp
  | some spec =>
      simp only [Option.some.injEq, exists_eq_left']
      cases unknown : use.params.keys.find? fun param => !spec.accepts param with
      | some param =>
          have refused : spec.accepts param = false := by
            simpa using List.find?_some unknown
          have accepted : ¬ ∀ param ∈ use.params.keys, spec.accepts param = true := by
            intro all
            have known := all param (List.mem_of_find?_eq_some unknown)
            rw [refused] at known
            cases known
          simp [accepted]
      | none =>
          have all : ∀ param ∈ use.params.keys, spec.accepts param = true := by
            simpa using unknown
          cases outcome : spec.generate use.params with
          | error cause => simp
          | ok made =>
              constructor
              · intro same
                exact ⟨⟨all, made, rfl⟩, (Except.ok.inj same).symm⟩
              · intro accepted
                obtain ⟨_, rfl⟩ := accepted
                rfl

theorem expandCaller_eq_ok_iff {registry : Registry} {integration : String}
    {caller expanded : AllowCaller} :
    registry.expandCaller integration caller = .ok expanded ↔
      (∀ use ∈ caller.capabilities, registry.Generates integration use) ∧
        expanded = ⟨caller.id, [], registry.declared integration caller⟩ := by
  rw [expandCaller, Checks.bind_eq_ok_iff]
  simp only [Checks.mapM_eq_ok_iff fun _ _ => rulesOf_eq_ok_iff, Except.ok.injEq]
  constructor
  · intro checked
    obtain ⟨_, ⟨generates, rfl⟩, rfl⟩ := checked
    exact ⟨generates, by rw [declared, List.flatMap_def]⟩
  · intro accepted
    obtain ⟨generates, rfl⟩ := accepted
    exact ⟨_, ⟨generates, rfl⟩, by rw [declared, List.flatMap_def]⟩

/-- Expansion succeeds when every capability generates, and then gives each caller
exactly the rules that it declares. -/
theorem expand_eq_ok_iff {registry : Registry} {integration : String}
    {callers expanded : List AllowCaller} :
    registry.expand integration callers = .ok expanded ↔
      (∀ caller ∈ callers, ∀ use ∈ caller.capabilities,
          registry.Generates integration use) ∧
        expanded = callers.map fun caller =>
          ⟨caller.id, [], registry.declared integration caller⟩ :=
  Checks.mapM_eq_ok_iff fun _ _ => expandCaller_eq_ok_iff

end CallPolicy.Registry
