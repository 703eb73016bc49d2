import CallPolicy.Proofs.ByteOrder
import CallPolicy.Proofs.Entries
import CallPolicy.Proofs.Expansion
import Mathlib.Data.List.Induction

/-!
Contract: a registry told from the registrations that it went through.

Owns:
- runs of registrations, and the capability that the last one of a key and a name gives;
- look-ups and the listing of a registry after any run;
- why one declared capability cannot be expanded, and which one ends an expansion.

Does not own: particular capabilities, and the rules that they stand for.
-/

namespace CallPolicy

/-- One registration of a capability. -/
structure Registration where
  integration : String
  name : String
  spec : CapabilitySpec

/-- The key and the name under which the capability is kept. -/
def Registration.slot (registration : Registration) : String × String :=
  (integrationKey registration.integration, registration.name)

/-- The capability of the last registration under a key and a name. -/
def Registration.last? (history : List Registration) (key name : String) :
    Option CapabilitySpec :=
  (history.reverse.find? fun registration => registration.slot = (key, name)).map
    Registration.spec

/-- The key and the name of a listed capability. -/
def CapabilityInfo.slot (info : CapabilityInfo) : String × String :=
  (info.integration, info.name)

/-- The order of a listing: by the bytes of the integrations, then by those of the names. -/
def CapabilityInfo.Before (left right : CapabilityInfo) : Prop :=
  Text.Utf8.bytes left.integration < Text.Utf8.bytes right.integration ∨
    left.integration = right.integration ∧
      Text.Utf8.bytes left.name < Text.Utf8.bytes right.name

namespace Registry

/-- The registry after a run of registrations. -/
def ofHistory (history : List Registration) : Registry :=
  history.foldl (fun registry registration =>
    registry.register registration.integration registration.name registration.spec) empty

/-! ### Look-ups -/

theorem ofKey?_register (registry : Registry) (registration : Registration)
    (key name : String) :
    (registry.register registration.integration registration.name registration.spec).ofKey?
        key name =
      if registration.slot = (key, name) then some registration.spec
      else registry.ofKey? key name := by
  rw [ofKey?, ofKey?, register, Keyed.alter, Keyed.get?_insert, Registration.slot]
  by_cases sameKey : integrationKey registration.integration = key
  · subst sameKey
    rw [if_pos rfl, Option.bind_some, Keyed.get?_insert]
    cases registry.specs.get? (integrationKey registration.integration) <;> simp
  · simp [sameKey]

/-- What is kept under a key and a name is what was registered there last. -/
theorem ofKey?_ofHistory (history : List Registration) (key name : String) :
    (ofHistory history).ofKey? key name = Registration.last? history key name := by
  induction history using List.reverseRecOn with
  | nil => rfl
  | append_singleton history registration inductionHypothesis =>
      have registered : ofHistory (history ++ [registration]) =
          (ofHistory history).register registration.integration registration.name
            registration.spec := by
        rw [ofHistory, List.foldl_append]
        rfl
      rw [registered, ofKey?_register, inductionHypothesis, Registration.last?,
        Registration.last?, List.reverse_append, List.reverse_singleton, List.singleton_append,
        List.find?_cons]
      by_cases same : registration.slot = (key, name) <;> simp [same]

theorem isSome_last?_iff {history : List Registration} {key name : String} :
    (Registration.last? history key name).isSome = true ↔
      ∃ registration ∈ history, registration.slot = (key, name) := by
  simp [Registration.last?]

/-! ### The listing -/

section Listing

variable (registry : Registry)

theorem mem_capabilities (info : CapabilityInfo) :
    info ∈ registry.capabilities ↔
      ∃ spec, registry.ofKey? info.integration info.name = some spec ∧
        info.params = spec.params ∧ info.required = spec.required := by
  simp only [capabilities, List.mem_flatMap, List.mem_map, ofKey?, Option.bind_eq_some_iff]
  constructor
  · rintro ⟨⟨key, known⟩, isKey, ⟨name, spec⟩, isName, rfl⟩
    exact ⟨spec, ⟨known, Keyed.get?_eq_some_iff.mpr isKey, Keyed.get?_eq_some_iff.mpr isName⟩,
      rfl, rfl⟩
  · obtain ⟨key, name, params, required⟩ := info
    rintro ⟨spec, ⟨known, isKey, isName⟩, rfl, rfl⟩
    exact ⟨(key, known), Keyed.get?_eq_some_iff.mp isKey, (name, spec),
      Keyed.get?_eq_some_iff.mp isName, rfl⟩

/-- Both maps are in rising order, so the listing is sorted without a sort. -/
theorem capabilities_rising :
    registry.capabilities.Pairwise fun left right =>
      left.integration < right.integration ∨
        left.integration = right.integration ∧ left.name < right.name := by
  rw [capabilities, List.pairwise_flatMap]
  constructor
  · intro known _
    rw [List.pairwise_map]
    exact known.2.rising.imp fun below => Or.inr ⟨rfl, below⟩
  · apply List.Pairwise.imp _ registry.specs.rising
    intro left right below info isLeft other isRight
    obtain ⟨_, _, rfl⟩ := List.mem_map.mp isLeft
    obtain ⟨_, _, rfl⟩ := List.mem_map.mp isRight
    exact Or.inl below

theorem capabilities_ordered : registry.capabilities.Pairwise CapabilityInfo.Before := by
  apply registry.capabilities_rising.imp
  rintro left right (below | ⟨same, below⟩)
  · exact Or.inl (Text.Utf8.bytes_lt_of_lt below)
  · exact Or.inr ⟨same, Text.Utf8.bytes_lt_of_lt below⟩

theorem capabilities_slots_nodup : (registry.capabilities.map CapabilityInfo.slot).Nodup := by
  refine List.pairwise_map.mpr (registry.capabilities_rising.imp ?_)
  rintro left right rising same
  obtain ⟨sameKey, sameName⟩ := Prod.mk.inj same
  rcases rising with below | ⟨_, below⟩
  · exact String.lt_irrefl _ (sameKey ▸ below)
  · exact String.lt_irrefl _ (sameName ▸ below)

end Listing

/-! ### Failures of expansion -/

/-- Why a declared capability cannot be expanded: nothing is known under its name, or a
parameter is not accepted, the first of them in the order of their names, or its accepted
parameters are refused. -/
inductive Fails (registry : Registry) (integration caller : String) (use : CapabilityUse) :
    PolicyError → Prop where
  | unknown (absent : registry.lookup integration use.name = none) :
      Fails registry integration caller use (.unknownCapability integration caller use.name)
  | unknownParameter {spec : CapabilitySpec} {before after : List String} {param : String}
      (known : registry.lookup integration use.name = some spec)
      (given : use.params.keys = before ++ param :: after)
      (accepted : ∀ other ∈ before, spec.accepts other = true)
      (unaccepted : spec.accepts param = false) :
      Fails registry integration caller use
        (.unknownParameter integration caller use.name param)
  | refused {spec : CapabilitySpec} {cause : CapabilityError}
      (known : registry.lookup integration use.name = some spec)
      (accepted : ∀ param ∈ use.params.keys, spec.accepts param = true)
      (generated : spec.generate use.params = .error cause) :
      Fails registry integration caller use
        (.refusedCapability integration caller use.name cause)

/-- The expansion of the callers ends with the failure of one declared capability. All
capabilities of the callers before it, and all that its own caller declares before it,
generate. -/
def FirstFails (registry : Registry) (integration : String) (callers : List AllowCaller)
    (error : PolicyError) : Prop :=
  ∃ earlier caller later before use after,
    callers = earlier ++ caller :: later ∧
      (∀ other ∈ earlier, ∀ declared ∈ other.capabilities,
        registry.Generates integration declared) ∧
      caller.capabilities = before ++ use :: after ∧
      (∀ declared ∈ before, registry.Generates integration declared) ∧
      registry.Fails integration (callerKey caller.id) use error

section Expanding

variable {registry : Registry} {integration : String} {error : PolicyError}

theorem rulesOf_eq_error_iff {caller : String} {use : CapabilityUse} :
    registry.rulesOf integration caller use = .error error ↔
      registry.Fails integration caller use error := by
  constructor
  · intro failed
    unfold rulesOf at failed
    cases known : registry.lookup integration use.name with
    | none =>
        rw [known] at failed
        cases failed
        exact .unknown known
    | some spec =>
        simp only [known] at failed
        cases unaccepted : use.params.keys.find? fun param => !spec.accepts param with
        | some param =>
            simp only [unaccepted] at failed
            cases failed
            obtain ⟨refuses, before, after, given, accepted⟩ :=
              List.find?_eq_some_iff_append.mp unaccepted
            refine .unknownParameter known given (fun other member => ?_) (by simpa using refuses)
            simpa using accepted other member
        | none =>
            have accepted : ∀ param ∈ use.params.keys, spec.accepts param = true := by
              simpa using unaccepted
            simp only [unaccepted] at failed
            cases generated : spec.generate use.params with
            | ok rules => simp [generated] at failed
            | error cause =>
                simp only [generated] at failed
                cases failed
                exact .refused known accepted generated
  · intro fails
    unfold rulesOf
    cases fails with
    | unknown absent => rw [absent]
    | @unknownParameter spec before after param known given accepted unaccepted =>
        have first : use.params.keys.find? (fun param => !spec.accepts param) = some param := by
          refine List.find?_eq_some_iff_append.mpr
            ⟨by simp [unaccepted], before, after, given, fun other member => ?_⟩
          simp [accepted other member]
        simp only [known, first]
    | @refused spec cause known accepted generated =>
        have none : use.params.keys.find? (fun param => !spec.accepts param) = none := by
          simpa using accepted
        simp only [known, none, generated]

theorem expandCaller_eq_error_iff {caller : AllowCaller} :
    registry.expandCaller integration caller = .error error ↔
      ∃ before use after, caller.capabilities = before ++ use :: after ∧
        (∀ declared ∈ before, registry.Generates integration declared) ∧
        registry.Fails integration (callerKey caller.id) use error := by
  have fromRules : registry.expandCaller integration caller = .error error ↔
      caller.capabilities.mapM (registry.rulesOf integration (callerKey caller.id)) =
        .error error := by
    rw [expandCaller]
    cases caller.capabilities.mapM (registry.rulesOf integration (callerKey caller.id)) <;>
      simp [bind, Except.bind]
  rw [fromRules, Checks.mapM_eq_error_iff]
  simp only [rulesOf_eq_ok_iff, rulesOf_eq_error_iff, exists_and_left, exists_eq, and_true]

/-- The first capability that cannot be expanded decides, caller by caller and in the order
in which each declares them. -/
theorem expand_eq_error_iff {callers : List AllowCaller} :
    registry.expand integration callers = .error error ↔
      registry.FirstFails integration callers error := by
  rw [expand, Checks.mapM_eq_error_iff]
  simp only [expandCaller_eq_ok_iff, expandCaller_eq_error_iff, exists_and_left, exists_eq,
    and_true, FirstFails]

theorem exists_expand_iff {callers : List AllowCaller} :
    (∃ expanded, registry.expand integration callers = .ok expanded) ↔
      ∀ caller ∈ callers, ∀ use ∈ caller.capabilities, registry.Generates integration use := by
  simp only [expand_eq_ok_iff, exists_and_left, exists_eq, and_true]

end Expanding

/-- After any run of registrations the last one of a name answers, that of the integration
before the global one. The listing shows every registered pair of key and name once, with
what was registered last, in the order of these pairs. Expansion succeeds exactly when every
declared capability generates; each caller then keeps its place and its id, and has its own
rules and after them the generated ones, in the order of declaration. Otherwise the first
capability that fails decides. -/
theorem ofHistory_answers (history : List Registration) :
    (∀ integration name, (ofHistory history).lookup integration name =
        (Registration.last? history (integrationKey integration) name).or
          (Registration.last? history globalIntegration name)) ∧
      ((ofHistory history).capabilities.map CapabilityInfo.slot).Nodup ∧
      (∀ slot, slot ∈ (ofHistory history).capabilities.map CapabilityInfo.slot ↔
        ∃ registration ∈ history, registration.slot = slot) ∧
      (∀ info ∈ (ofHistory history).capabilities, ∃ spec,
        Registration.last? history info.integration info.name = some spec ∧
          info.params = spec.params ∧ info.required = spec.required) ∧
      (ofHistory history).capabilities.Pairwise CapabilityInfo.Before ∧
      ∀ integration callers,
        ((∃ expanded, (ofHistory history).expand integration callers = .ok expanded) ↔
            ∀ caller ∈ callers, ∀ use ∈ caller.capabilities,
              (ofHistory history).Generates integration use) ∧
          (∀ expanded, (ofHistory history).expand integration callers = .ok expanded →
            expanded = callers.map fun caller => ⟨caller.id, [],
              caller.rules ++
                caller.capabilities.flatMap ((ofHistory history).generated integration)⟩) ∧
          ∀ error, (ofHistory history).expand integration callers = .error error ↔
            (ofHistory history).FirstFails integration callers error := by
  have listed : ∀ info, info ∈ (ofHistory history).capabilities ↔ ∃ spec,
      Registration.last? history info.integration info.name = some spec ∧
        info.params = spec.params ∧ info.required = spec.required := by
    intro info
    rw [mem_capabilities, ofKey?_ofHistory]
  refine ⟨?_, capabilities_slots_nodup _, ?_, fun info => (listed info).mp,
    capabilities_ordered _, fun integration callers => ⟨exists_expand_iff, ?_,
      fun error => expand_eq_error_iff⟩⟩
  · intro integration name
    rw [lookup, ofKey?_ofHistory, ofKey?_ofHistory]
  · rintro ⟨key, name⟩
    rw [← isSome_last?_iff, List.mem_map]
    constructor
    · rintro ⟨info, isListed, same⟩
      obtain ⟨rfl, rfl⟩ := Prod.mk.inj same
      obtain ⟨spec, found, _⟩ := (listed info).mp isListed
      rw [found, Option.isSome_some]
    · intro registered
      obtain ⟨spec, found⟩ := Option.isSome_iff_exists.mp registered
      exact ⟨⟨key, name, spec.params, spec.required⟩, (listed _).mpr ⟨spec, found, rfl, rfl⟩, rfl⟩
  · intro expanded succeeded
    exact (expand_eq_ok_iff.mp succeeded).2

end Registry

end CallPolicy
