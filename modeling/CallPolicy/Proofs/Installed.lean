import CallPolicy.Allowlist
import CallPolicy.Denylist
import CallPolicy.Proofs.Entries
import CallPolicy.Proofs.Expansion
import CallPolicy.Proofs.Validation

/-!
Contract: what building makes of declared callers and entries.

Owns:
- what loops make that check items in order and store what the checks give;
- exactly which declarations are accepted, for one integration and for a batch, in
  both lists;
- the index and the list that accepted declarations are installed as.

Does not own: the decisions that are taken from what is installed.
-/

namespace CallPolicy

/-! ### Loops over items and batches -/

section Loops

variable {α β : Type}

/-- A loop that stores what a check gives for each item succeeds when all items pass,
and stores their values in order. -/
theorem Keyed.storeAll_eq_ok_iff (loop : Keyed β → List α → Except PolicyError (Keyed β))
    (nameOf : α → String) (check : α → Except PolicyError β)
    (stop : ∀ built, loop built [] = .ok built)
    (step : ∀ built item rest, loop built (item :: rest) =
      check item >>= fun value => loop (built.insert (nameOf item) value) rest)
    {Passes : α → Prop} {valueOf : α → β}
    (each : ∀ item value, check item = .ok value ↔ Passes item ∧ value = valueOf item)
    (built result : Keyed β) (items : List α) :
    loop built items = .ok result ↔
      (∀ item ∈ items, Passes item) ∧
        result = (items.map fun item => (nameOf item, valueOf item)).foldl
          (fun map entry => map.insert entry.1 entry.2) built := by
  induction items generalizing built with
  | nil => simp [stop, eq_comm]
  | cons item rest inductionHypothesis =>
      rw [step, Checks.bind_eq_ok_iff]
      simp only [each, inductionHypothesis, List.forall_mem_cons, List.map_cons,
        List.foldl_cons]
      constructor
      · intro stored
        obtain ⟨_, ⟨passes, rfl⟩, others, rfl⟩ := stored
        exact ⟨⟨passes, others⟩, rfl⟩
      · intro stored
        obtain ⟨⟨passes, others⟩, rfl⟩ := stored
        exact ⟨_, ⟨passes, rfl⟩, others, rfl⟩

/-- Storing what a check gives under a name succeeds when the name is not empty and the
check passes. -/
theorem Keyed.insertNamed_eq_ok_iff {name : String} {unnamed : PolicyError}
    {built : Except PolicyError β} {map after : Keyed β} {Passes : Prop} {value : β}
    (spec : ∀ index, built = .ok index ↔ Passes ∧ index = value) :
    (if name.isEmpty then .error unnamed
      else built >>= fun index => .ok (map.insert name index)) = .ok after ↔
      name ≠ "" ∧ Passes ∧ after = map.insert name value := by
  by_cases empty : name = ""
  · simp [empty]
  · simp only [String.isEmpty_iff, if_neg empty, Checks.bind_eq_ok_iff, spec,
      Except.ok.injEq]
    constructor
    · intro stored
      obtain ⟨_, ⟨passes, rfl⟩, rfl⟩ := stored
      exact ⟨empty, passes, rfl⟩
    · intro accepted
      obtain ⟨_, passes, rfl⟩ := accepted
      exact ⟨_, ⟨passes, rfl⟩, rfl⟩

/-- The names of a batch: none is empty, and none repeats another one. -/
structure NamesAccepted (names : List String) : Prop where
  distinct : (names.map integrationKey).Nodup
  nonempty : ∀ name ∈ names, integrationKey name ≠ ""

theorem Validation.batchKeys_eq_ok_iff {names keys : List String} :
    Validation.integrationKeys 0 [] names = .ok keys ↔
      NamesAccepted names ∧ keys = names.map integrationKey := by
  rw [Validation.integrationKeys_eq_ok_iff]
  constructor
  · intro checked
    obtain ⟨rfl, distinct, each⟩ := checked
    refine ⟨⟨distinct, fun name member => ?_⟩, rfl⟩
    exact (each _ (List.mem_map_of_mem member)).1
  · intro accepted
    obtain ⟨⟨distinct, nonempty⟩, rfl⟩ := accepted
    refine ⟨rfl, distinct, fun key member => ?_⟩
    obtain ⟨name, isName, rfl⟩ := List.mem_map.mp member
    exact ⟨nonempty name isName, List.not_mem_nil⟩

/-- The keys of a batch, put beside its entries, are the keys of the entries' names. -/
theorem Validation.zip_batchKeys (nameOf : α → String) (entries : List α) :
    ((entries.map nameOf).map integrationKey).zip entries =
      entries.map fun entry => (integrationKey (nameOf entry), entry) := by
  rw [List.map_map]
  exact List.map_prod_right_eq_zip.symm

/-- A batch is built when its names are accepted and all entries pass under the keys of
their names. -/
theorem Validation.batch_eq_ok_iff
    {loop : Keyed β → List (String × α) → Except PolicyError (Keyed β)}
    {Passes : String × α → Prop} {valueOf : String × α → β}
    (spec : ∀ built result pairs, loop built pairs = .ok result ↔
      (∀ pair ∈ pairs, Passes pair) ∧
        result = (pairs.map fun pair => (pair.1, valueOf pair)).foldl
          (fun map entry => map.insert entry.1 entry.2) built)
    (nameOf : α → String) (entries : List α) (result : Keyed β) :
    (Validation.integrationKeys 0 [] (entries.map nameOf) >>= fun keys =>
        loop Keyed.empty (keys.zip entries)) = .ok result ↔
      (NamesAccepted (entries.map nameOf) ∧
          ∀ entry ∈ entries, Passes (integrationKey (nameOf entry), entry)) ∧
        result = Keyed.ofList (entries.map fun entry =>
          (integrationKey (nameOf entry), valueOf (integrationKey (nameOf entry), entry))) := by
  rw [Checks.bind_eq_ok_iff]
  simp only [Validation.batchKeys_eq_ok_iff, spec]
  constructor
  · intro built
    obtain ⟨_, ⟨names, rfl⟩, each, rfl⟩ := built
    rw [zip_batchKeys] at each ⊢
    refine ⟨⟨names, fun entry member => each _ (List.mem_map_of_mem member)⟩, ?_⟩
    rw [List.map_map]
    rfl
  · intro accepted
    obtain ⟨⟨names, each⟩, rfl⟩ := accepted
    refine ⟨_, ⟨names, rfl⟩, ?_⟩
    rw [zip_batchKeys]
    refine ⟨fun pair member => ?_, ?_⟩
    · obtain ⟨entry, isEntry, rfl⟩ := List.mem_map.mp member
      exact each entry isEntry
    · rw [List.map_map]
      rfl

end Loops

/-! ### Allowlists -/

namespace Allowlist

/-- The callers of an integration are accepted: their keys are distinct, their own
rules declare no pair of path and method twice, their capabilities generate, and all
rules are sound, generated ones included. -/
structure Accepted (registry : Registry) (integration : String)
    (callers : List AllowCaller) : Prop where
  distinct : (callers.map fun caller => callerKey caller.id).Nodup
  ownDistinct : ∀ caller ∈ callers, (caller.rules.flatMap Rule.pairs).Nodup
  generates : ∀ caller ∈ callers, ∀ use ∈ caller.capabilities,
    registry.Generates integration use
  sound : ∀ caller ∈ callers, ∀ rule ∈ registry.declared integration caller, rule.Sound

/-- A caller as it is installed: under its key, with its declared rules prepared. -/
def installed (registry : Registry) (integration : String) (caller : AllowCaller) :
    AllowCaller :=
  ⟨callerKey caller.id, [], (registry.declared integration caller).map Rule.prepare⟩

/-- The index of accepted callers. -/
def indexOf (registry : Registry) (integration : String) (callers : List AllowCaller) :
    AllowIndex :=
  Keyed.ofList (callers.map fun caller =>
    (callerKey caller.id, installed registry integration caller))

theorem indexExpanded_eq_ok_iff {integration : String} {built : AllowIndex}
    {callers : List AllowCaller} :
    indexExpanded integration Keyed.empty callers = .ok built ↔
      (∀ caller ∈ callers, ∀ rule ∈ caller.rules, rule.Sound) ∧
        built = Keyed.ofList (callers.map fun caller =>
          (callerKey caller.id, install caller)) := by
  refine Keyed.storeAll_eq_ok_iff (indexExpanded integration) (fun caller => callerKey caller.id)
    (fun caller => do
      Validation.rules integration caller.id false caller.rules
      .ok (install caller))
    (fun _ => rfl) (fun built caller rest => ?_) (fun caller value => ?_) _ _ _
  · rw [indexExpanded]
    cases Validation.rules integration caller.id false caller.rules <;> rfl
  · rw [Checks.unit_bind_eq_ok_iff, Validation.rules_eq_ok_iff, Except.ok.injEq]
    simp [eq_comm]

theorem buildIndex_eq_ok_iff {registry : Registry} {integration : String}
    {callers : List AllowCaller} {index : AllowIndex} :
    buildIndex registry integration callers = .ok index ↔
      Accepted registry integration callers ∧
        index = indexOf registry integration callers := by
  rw [buildIndex, Checks.unit_bind_eq_ok_iff, Checks.unit_bind_eq_ok_iff,
    Checks.bind_eq_ok_iff, Checks.forM_eq_ok_iff, Validation.uniqueCallers_eq_ok_iff]
  simp only [Validation.rules_eq_ok_iff, Registry.expand_eq_ok_iff, indexExpanded_eq_ok_iff,
    List.map_map]
  constructor
  · intro built
    obtain ⟨⟨distinct, _⟩, own, _, ⟨generates, rfl⟩, sound, rfl⟩ := built
    refine ⟨⟨distinct, fun caller member => (own caller member).2 trivial, generates, ?_⟩, ?_⟩
    · intro caller member rule isRule
      exact sound _ (List.mem_map_of_mem member) rule isRule
    · rw [indexOf, List.map_map]
      rfl
  · intro accepted
    obtain ⟨accepted, rfl⟩ := accepted
    refine ⟨⟨accepted.distinct, by simp⟩, ?_, _, ⟨accepted.generates, rfl⟩, ?_, ?_⟩
    · intro caller member
      refine ⟨fun rule isRule => ?_, fun _ => accepted.ownDistinct caller member⟩
      exact accepted.sound caller member rule (List.mem_append_left _ isRule)
    · intro expanded member rule isRule
      obtain ⟨caller, isCaller, rfl⟩ := List.mem_map.mp member
      exact accepted.sound caller isCaller rule isRule
    · rw [indexOf, List.map_map]
      rfl

/-- An index finds under a key the first caller of that key, as it is installed. -/
theorem get?_indexOf {registry : Registry} {integration : String}
    {callers : List AllowCaller} (accepted : Accepted registry integration callers)
    (key : String) :
    (indexOf registry integration callers).get? key =
      (callers.find? fun caller => callerKey caller.id = key).map
        (installed registry integration) :=
  Keyed.get?_ofList_map accepted.distinct _ key

/-- A batch is accepted: its names are, and so are the callers of each entry. -/
structure BatchAccepted (registry : Registry) (entries : List AllowEntry) : Prop where
  names : NamesAccepted (entries.map AllowEntry.integration)
  each : ∀ entry ∈ entries,
    Accepted registry (integrationKey entry.integration) entry.callers

/-- The allowlist of an accepted batch. -/
def listOf (registry : Registry) (entries : List AllowEntry) : Allowlist :=
  Keyed.ofList (entries.map fun entry => (integrationKey entry.integration,
    indexOf registry (integrationKey entry.integration) entry.callers))

theorem build_eq_ok_iff {registry : Registry} {entries : List AllowEntry}
    {allowlist : Allowlist} :
    build registry entries = .ok allowlist ↔
      BatchAccepted registry entries ∧ allowlist = listOf registry entries := by
  have entriesSpec := Keyed.storeAll_eq_ok_iff (buildEntries registry) Prod.fst
    (fun pair => buildIndex registry pair.1 pair.2.callers)
    (fun _ => rfl) (fun _ _ _ => rfl) (fun _ _ => buildIndex_eq_ok_iff)
  refine (Validation.batch_eq_ok_iff entriesSpec AllowEntry.integration entries _).trans ?_
  refine and_congr_left fun _ => ?_
  exact ⟨fun accepted => ⟨accepted.1, accepted.2⟩, fun accepted => ⟨accepted.names, accepted.each⟩⟩

/-- The list of a batch finds under a key the index of the first entry of that
key. -/
theorem get?_listOf {registry : Registry} {entries : List AllowEntry}
    (accepted : BatchAccepted registry entries) (key : String) :
    (listOf registry entries).get? key =
      (entries.find? fun entry => integrationKey entry.integration = key).map fun entry =>
        indexOf registry (integrationKey entry.integration) entry.callers := by
  have distinct := accepted.names.distinct
  rw [List.map_map] at distinct
  exact Keyed.get?_ofList_map distinct _ key

theorem set_eq_ok_iff {registry : Registry} {allowlist after : Allowlist}
    {integration : String} {callers : List AllowCaller} :
    allowlist.set registry integration callers = .ok after ↔
      integrationKey integration ≠ "" ∧
        Accepted registry (integrationKey integration) callers ∧
          after = allowlist.insert (integrationKey integration)
            (indexOf registry (integrationKey integration) callers) := by
  rw [set]
  exact Keyed.insertNamed_eq_ok_iff fun _ => buildIndex_eq_ok_iff

end Allowlist

/-! ### Denylists -/

namespace Denylist

/-- The callers of an integration are accepted: their keys are distinct, and their
rules are sound and declare no pair of path and method twice. -/
structure Accepted (callers : List DenyCaller) : Prop where
  distinct : (callers.map fun caller => callerKey caller.id).Nodup
  sound : ∀ caller ∈ callers, ∀ rule ∈ caller.rules, rule.Sound
  ownDistinct : ∀ caller ∈ callers, (caller.rules.flatMap Rule.pairs).Nodup

/-- The index of accepted callers. -/
def indexOf (callers : List DenyCaller) : DenyIndex :=
  Keyed.ofList (callers.map fun caller =>
    (callerKey caller.id, caller.rules.map Rule.prepare))

theorem indexCallers_eq_ok_iff {integration : String} {built : DenyIndex}
    {callers : List DenyCaller} :
    indexCallers integration Keyed.empty callers = .ok built ↔
      (∀ caller ∈ callers, (∀ rule ∈ caller.rules, rule.Sound) ∧
          (caller.rules.flatMap Rule.pairs).Nodup) ∧ built = indexOf callers := by
  refine Keyed.storeAll_eq_ok_iff (indexCallers integration) (fun caller => callerKey caller.id)
    (fun caller => do
      Validation.rules integration caller.id true caller.rules
      .ok (caller.rules.map Rule.prepare))
    (fun _ => rfl) (fun built caller rest => ?_) (fun caller value => ?_) _ _ _
  · rw [indexCallers]
    cases Validation.rules integration caller.id true caller.rules <;> rfl
  · rw [Checks.unit_bind_eq_ok_iff, Validation.rules_eq_ok_iff, Except.ok.injEq]
    simp [eq_comm]

theorem buildIndex_eq_ok_iff {integration : String} {callers : List DenyCaller}
    {index : DenyIndex} :
    buildIndex integration callers = .ok index ↔
      Accepted callers ∧ index = indexOf callers := by
  rw [buildIndex, Checks.unit_bind_eq_ok_iff, Validation.uniqueCallers_eq_ok_iff,
    indexCallers_eq_ok_iff, List.map_map, ← and_assoc]
  refine and_congr_left fun _ => ?_
  constructor
  · intro checked
    obtain ⟨⟨distinct, _⟩, each⟩ := checked
    exact ⟨distinct, fun caller member => (each caller member).1,
      fun caller member => (each caller member).2⟩
  · intro accepted
    exact ⟨⟨accepted.distinct, by simp⟩, fun caller member =>
      ⟨accepted.sound caller member, accepted.ownDistinct caller member⟩⟩

/-- An index finds under a key the rules of the first caller of that key. -/
theorem get?_indexOf {callers : List DenyCaller} (accepted : Accepted callers)
    (key : String) :
    (indexOf callers).get? key =
      (callers.find? fun caller => callerKey caller.id = key).map fun caller =>
        caller.rules.map Rule.prepare :=
  Keyed.get?_ofList_map accepted.distinct _ key

theorem rulesOf_of_isEmpty {index : DenyIndex} (empty : index.isEmpty = true)
    (caller : String) : rulesOf index caller = [] := by
  have noEntries : index.entries = [] := List.isEmpty_iff.mp empty
  simp [rulesOf, Keyed.get?, noEntries]

/-- A batch is accepted: its names are, and so are the callers of each entry. -/
structure BatchAccepted (entries : List DenyEntry) : Prop where
  names : NamesAccepted (entries.map DenyEntry.integration)
  each : ∀ entry ∈ entries, Accepted entry.callers

/-- The denylist of an accepted batch. -/
def listOf (entries : List DenyEntry) : Denylist :=
  Keyed.ofList (entries.map fun entry =>
    (integrationKey entry.integration, indexOf entry.callers))

theorem build_eq_ok_iff {entries : List DenyEntry} {denylist : Denylist} :
    build entries = .ok denylist ↔ BatchAccepted entries ∧ denylist = listOf entries := by
  have entriesSpec := Keyed.storeAll_eq_ok_iff buildEntries Prod.fst
    (fun pair => buildIndex pair.1 pair.2.callers)
    (fun _ => rfl) (fun _ _ _ => rfl) (fun _ _ => buildIndex_eq_ok_iff)
  refine (Validation.batch_eq_ok_iff entriesSpec DenyEntry.integration entries _).trans ?_
  refine and_congr_left fun _ => ?_
  exact ⟨fun accepted => ⟨accepted.1, accepted.2⟩, fun accepted => ⟨accepted.names, accepted.each⟩⟩

/-- The list of a batch finds under a key the index of the first entry of that
key. -/
theorem get?_listOf {entries : List DenyEntry} (accepted : BatchAccepted entries)
    (key : String) :
    (listOf entries).get? key =
      (entries.find? fun entry => integrationKey entry.integration = key).map fun entry =>
        indexOf entry.callers := by
  have distinct := accepted.names.distinct
  rw [List.map_map] at distinct
  exact Keyed.get?_ofList_map distinct _ key

theorem set_eq_ok_iff {denylist after : Denylist} {integration : String}
    {callers : List DenyCaller} :
    denylist.set integration callers = .ok after ↔
      integrationKey integration ≠ "" ∧ Accepted callers ∧
        after = denylist.insert (integrationKey integration) (indexOf callers) := by
  rw [set]
  exact Keyed.insertNamed_eq_ok_iff fun _ => buildIndex_eq_ok_iff

end Denylist

end CallPolicy
