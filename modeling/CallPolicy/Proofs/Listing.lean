import CallPolicy.CommandLine.Listing
import CallPolicy.Proofs.Registrations
import CallPolicy.Proofs.WrittenValues

/-!
Contract: which capabilities are listed for an integration.

Owns:
- the place where a look-up finds a capability, and what a listing says about it there;
- that the capabilities listed for an integration are those that look-ups for it find;
- that the listing as JSON is read back as one item for each of them.

Does not own: the order of a registry, and particular capabilities.

## Shadowing

A listing is filtered: a global capability is left out if the integration has one of the same
name. A look-up chooses instead: it tries the integration and then the global ones. Both are
compared with `Registry.found?`, what a listing would have to say about the capability that a
look-up finds. Since a registry keeps one capability under a key and a name, an item that
is listed is determined by its name.
-/

namespace CallPolicy

namespace Registry

variable {registry : Registry} {integration : String}

/-- The key under which a look-up finds a capability, if it finds one: that of the integration,
or else the global one. -/
def placeOf (registry : Registry) (integration name : String) : String :=
  if (registry.ofKey? (integrationKey integration) name).isSome then integrationKey integration
  else globalIntegration

/-- What a listing says about the capability that a look-up finds. -/
def found? (registry : Registry) (integration name : String) : Option CapabilityInfo :=
  (registry.lookup integration name).map fun spec =>
    ⟨registry.placeOf integration name, name, spec.params, spec.required⟩

theorem lookup_eq_ofKey?_placeOf (registry : Registry) (integration name : String) :
    registry.lookup integration name =
      registry.ofKey? (registry.placeOf integration name) name := by
  rw [lookup, placeOf]
  cases own : registry.ofKey? (integrationKey integration) name with
  | none => simp
  | some spec => simp [own]

theorem found?_eq_some_iff {name : String} {info : CapabilityInfo} :
    registry.found? integration name = some info ↔
      info.name = name ∧ info.integration = registry.placeOf integration name ∧
        info ∈ registry.capabilities := by
  rw [found?, lookup_eq_ofKey?_placeOf, Option.map_eq_some_iff, mem_capabilities]
  obtain ⟨key, listedName, params, required⟩ := info
  constructor
  · rintro ⟨spec, kept, same⟩
    cases same
    exact ⟨rfl, rfl, spec, kept, rfl, rfl⟩
  · rintro ⟨rfl, atPlace, spec, kept, rfl, rfl⟩
    exact ⟨spec, atPlace ▸ kept, atPlace ▸ rfl⟩

end Registry

namespace Json

theorem itemsDepth_le {items : List Json} {limit : Nat}
    (each : ∀ item ∈ items, item.depth ≤ limit) : itemsDepth items ≤ limit := by
  induction items with
  | nil => exact Nat.zero_le limit
  | cons item rest inductionHypothesis =>
      obtain ⟨first, others⟩ := List.forall_mem_cons.mp each
      exact Nat.max_le.mpr ⟨first, inductionHypothesis others⟩

theorem depth_ofStrings_le (texts : List String) : (ofStrings texts).depth ≤ 1 := by
  refine Nat.succ_le_succ (itemsDepth_le fun item member => ?_)
  obtain ⟨text, _, rfl⟩ := List.mem_map.mp member
  exact Nat.le_refl 0

theorem whole_ofStrings (texts : List String) : Whole (ofStrings texts) := by
  refine .array fun item member => ?_
  obtain ⟨text, _, rfl⟩ := List.mem_map.mp member
  exact .string text

end Json

namespace CommandLine

section Usable

variable {registry : Registry} {integration : String}

theorem isUsable_iff {info : CapabilityInfo} (listed : info ∈ registry.capabilities) :
    isUsable registry.capabilities (integrationKey integration) info = true ↔
      info.integration = registry.placeOf integration info.name := by
  -- Some other item of the integration has this name where a look-up finds one of its own.
  have shadowed : (registry.capabilities.any fun other =>
      other.integration == integrationKey integration && other.name == info.name) =
        (registry.ofKey? (integrationKey integration) info.name).isSome := by
    rw [Bool.eq_iff_iff, List.any_eq_true, Option.isSome_iff_exists]
    constructor
    · rintro ⟨other, isListed, same⟩
      rw [Bool.and_eq_true, beq_iff_eq, beq_iff_eq] at same
      obtain ⟨spec, kept, _⟩ := (registry.mem_capabilities other).mp isListed
      exact ⟨spec, by rw [← same.1, ← same.2, kept]⟩
    · rintro ⟨spec, kept⟩
      refine ⟨⟨integrationKey integration, info.name, spec.params, spec.required⟩,
        (registry.mem_capabilities _).mpr ⟨spec, kept, rfl, rfl⟩, ?_⟩
      rw [beq_self_eq_true, beq_self_eq_true, Bool.and_self]
  obtain ⟨spec, kept, _⟩ := (registry.mem_capabilities info).mp listed
  rw [isUsable, shadowed, Registry.placeOf]
  by_cases own : info.integration = integrationKey integration
  · rw [own] at kept
    simp [own, kept]
  · cases found : registry.ofKey? (integrationKey integration) info.name <;> simp [own]

/-- What is listed for an integration is what a look-up of its name finds. -/
theorem mem_usable_iff {info : CapabilityInfo} :
    info ∈ usable registry.capabilities (some integration) ↔
      registry.found? integration info.name = some info := by
  rw [usable, List.mem_filter, Registry.found?_eq_some_iff, and_comm, eq_self, true_and]
  exact and_congr_left isUsable_iff

theorem usable_names_nodup (registry : Registry) (integration : String) :
    ((usable registry.capabilities (some integration)).map CapabilityInfo.name).Nodup := by
  have distinct : (usable registry.capabilities (some integration)).Nodup :=
    (List.Nodup.of_map _ registry.capabilities_slots_nodup).filter _
  refine distinct.map_on fun left isLeft right isRight same => ?_
  have foundLeft := mem_usable_iff.mp isLeft
  rw [same, mem_usable_iff.mp isRight] at foundLeft
  exact (Option.some.inj foundLeft).symm

end Usable

section Text

/-- A listing as JSON is read back. -/
theorem parse?_listing (infos : List CapabilityInfo) :
    Json.parse? (listing infos true).toList =
      some (.array (infos.map Document.capabilityInfoJson)) := by
  have whole : Json.Whole (.array (infos.map Document.capabilityInfoJson)) := by
    refine .array fun item member => ?_
    obtain ⟨info, _, rfl⟩ := List.mem_map.mp member
    refine .object ?_
    simp only [List.forall_mem_cons]
    exact ⟨.string _, .string _, Json.whole_ofStrings _, Json.whole_ofStrings _,
      List.forall_mem_nil _⟩
  have shallow : (Json.array (infos.map Document.capabilityInfoJson)).depth ≤ 3 := by
    refine Nat.succ_le_succ (Json.itemsDepth_le fun item member => ?_)
    obtain ⟨info, _, rfl⟩ := List.mem_map.mp member
    have params := Json.depth_ofStrings_le info.params
    have required := Json.depth_ofStrings_le info.required
    simp only [Document.capabilityInfoJson, Json.depth, Json.membersDepth]
    omega
  have behind : Json.Token.Reads ['\n'] [] := by
    have blank : ∀ char ∈ ['\n'], Json.Token.isSpace char = true :=
      List.forall_mem_singleton.mpr rfl
    simpa using Json.Token.Reads.blanks blank Json.reads_nil
  have reads := (Json.Printer.manyLines.reads_value whole 0).append
    (Json.Token.ends_cons (by decide)) behind
  rw [List.append_nil] at reads
  rw [listing, if_pos rfl, String.toList_ofList]
  exact (Json.parse?_of_reads reads).trans (if_pos (Nat.le_trans shallow (by decide)))

end Text

/-- The capabilities that are listed for an integration, in whatever spelling and in whatever
registry, have different names. A name is among them exactly when a look-up for the integration
finds it, and its item says where the look-up finds it and what the capability found has for
parameters. For the built-in capabilities the JSON listing is one item for each of these, in
their order, whose four members tell it in full, and the table one line for each. -/
theorem usable_agrees_with_lookup (registry : Registry) (integration : String) :
    ((usable registry.capabilities (some integration)).map CapabilityInfo.name).Nodup ∧
      (∀ name,
        name ∈ (usable registry.capabilities (some integration)).map CapabilityInfo.name ↔
          ∃ spec, registry.lookup integration name = some spec) ∧
      (∀ info ∈ usable registry.capabilities (some integration), ∃ spec,
        registry.lookup integration info.name = some spec ∧
          info.integration = registry.placeOf integration info.name ∧
          registry.ofKey? info.integration info.name = some spec ∧
          info.params = spec.params ∧ info.required = spec.required) ∧
      Json.parse? (listCapabilities (some integration) true).toList =
        some (.array ((usable Registry.builtin.capabilities (some integration)).map fun info =>
          .object [("integration", .string info.integration), ("name", .string info.name),
            ("params", .array (info.params.map .string)),
            ("required", .array (info.required.map .string))])) ∧
      listCapabilities (some integration) false =
        lines ((usable Registry.builtin.capabilities (some integration)).map tableLine) := by
  refine ⟨usable_names_nodup registry integration, fun name => ?_, fun info listed => ?_,
    parse?_listing _, rfl⟩
  · rw [List.mem_map]
    constructor
    · rintro ⟨info, listed, rfl⟩
      obtain ⟨spec, found, _⟩ := Option.map_eq_some_iff.mp (mem_usable_iff.mp listed)
      exact ⟨spec, found⟩
    · rintro ⟨spec, found⟩
      have isFound : registry.found? integration name =
          some ⟨registry.placeOf integration name, name, spec.params, spec.required⟩ := by
        rw [Registry.found?, found, Option.map_some]
      have sameName := (Registry.found?_eq_some_iff.mp isFound).1
      exact ⟨_, mem_usable_iff.mpr isFound, sameName⟩
  · have isFound := mem_usable_iff.mp listed
    obtain ⟨spec, found, same⟩ := Option.map_eq_some_iff.mp isFound
    have atPlace : info.integration = registry.placeOf integration info.name :=
      (Registry.found?_eq_some_iff.mp isFound).2.1
    refine ⟨spec, found, atPlace, ?_, by rw [← same], by rw [← same]⟩
    rw [atPlace, ← Registry.lookup_eq_ofKey?_placeOf, found]

namespace ShadowSample

/-- A capability that takes these parameters and stands for no rules. -/
def spec (params : List String) : CapabilitySpec := ⟨params, [], fun _ => .ok []⟩

/-- A global capability, one of an integration that shadows it, and another global one. -/
def registry : Registry :=
  ((Registry.empty.register "*" "read" (spec ["all"])).register "GitHub" "read"
    (spec ["repo"])).register "*" "write" (spec [])

/-- What is listed for the integration. -/
def infos : List CapabilityInfo := usable registry.capabilities (some " github ")

end ShadowSample

open ShadowSample in
theorem usable_agrees_with_lookup_sample :
    "read" ∈ infos.map CapabilityInfo.name ∧ "write" ∈ infos.map CapabilityInfo.name ∧
      "delete" ∉ infos.map CapabilityInfo.name ∧
      ∀ info ∈ infos, info.name = "read" → info.params = ["repo"] := by
  obtain ⟨_, listed, described, _⟩ := usable_agrees_with_lookup registry " github "
  have reads : (registry.lookup " github " "read").map CapabilitySpec.params = some ["repo"] := by
    decide +kernel
  obtain ⟨read, readFound, readParams⟩ := Option.map_eq_some_iff.mp reads
  have writes : (registry.lookup " github " "write").isSome = true := by decide +kernel
  have deletes : (registry.lookup " github " "delete").isSome = false := by decide +kernel
  refine ⟨(listed "read").mpr ⟨read, readFound⟩,
    (listed "write").mpr (Option.isSome_iff_exists.mp writes), fun listedDelete => ?_,
    fun info isListed isRead => ?_⟩
  · obtain ⟨spec, found⟩ := (listed "delete").mp listedDelete
    rw [found] at deletes
    cases deletes
  · obtain ⟨spec, found, _, _, sameParams, _⟩ := described info isListed
    rw [isRead, readFound] at found
    rw [sameParams, ← Option.some.inj found, readParams]

end CommandLine

end CallPolicy
