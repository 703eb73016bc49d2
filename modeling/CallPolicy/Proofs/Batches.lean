import CallPolicy.Proofs.History
import CallPolicy.Proofs.Installed

/-!
Contract: a batch of entries agrees with its entries, installed one by one.

Owns:
- the two ways of filling a list of an engine: with a batch, and with one call for each
  entry;
- what the call for one entry changes;
- that a batch is accepted when each of its entries is, and that the calls for its
  entries, in any order, leave the list that the batch builds.

Does not own: what makes the callers of an entry acceptable.
-/

namespace CallPolicy

/-! ### Ways of filling a list -/

/-- One of the two lists of an engine with the two ways of filling it. A batch is built
apart from the engine. The call for an entry writes into the list of the engine.

An entry that is accepted, alone or in a batch, is stored under the key of its name as one
and the same index. -/
structure Installation (Entry β : Type) where
  nameOf : Entry → String
  Accepted : Registry → Entry → Prop
  indexOf : Registry → Entry → β
  build : Registry → List Entry → Except PolicyError (Keyed β)
  command : Entry → Command
  installed : Engine → Keyed β
  put : Engine → Keyed β → Engine
  build_eq_ok_iff : ∀ {registry : Registry} {entries : List Entry} {built : Keyed β},
    build registry entries = .ok built ↔
      (NamesAccepted (entries.map nameOf) ∧ ∀ entry ∈ entries, Accepted registry entry) ∧
        built = Keyed.ofList (entries.map fun entry =>
          (integrationKey (nameOf entry), indexOf registry entry))
  asks_eq_ok_iff : ∀ {engine after : Engine} {entry : Entry},
    (command entry).asks engine = .ok after ↔
      integrationKey (nameOf entry) ≠ "" ∧ Accepted engine.registry entry ∧
        after = put engine ((installed engine).insert (integrationKey (nameOf entry))
          (indexOf engine.registry entry))
  installed_put : ∀ engine list, installed (put engine list) = list
  put_put : ∀ engine first second, put (put engine first) second = put engine second
  put_installed : ∀ engine, put engine (installed engine) = engine
  installed_ofRegistry : ∀ registry, installed (Engine.ofRegistry registry) = Keyed.empty

namespace Installation

/-- Filling the allowlist. -/
def allowed : Installation AllowEntry AllowIndex where
  nameOf := AllowEntry.integration
  Accepted registry entry :=
    Allowlist.Accepted registry (integrationKey entry.integration) entry.callers
  indexOf registry entry :=
    Allowlist.indexOf registry (integrationKey entry.integration) entry.callers
  build := Allowlist.build
  command entry := .setAllowed entry.integration entry.callers
  installed := Engine.allowlist
  put engine allowlist := { engine with allowlist }
  build_eq_ok_iff := by
    intro registry entries built
    rw [Allowlist.build_eq_ok_iff]
    refine and_congr_left fun _ => ?_
    exact ⟨fun accepted => ⟨accepted.names, accepted.each⟩, fun accepted => ⟨accepted.1, accepted.2⟩⟩
  asks_eq_ok_iff := by
    intro engine after entry
    simp only [Command.asks, Checks.map_eq_ok_iff, Allowlist.set_eq_ok_iff, and_assoc,
      exists_and_left, exists_eq_left, eq_comm (b := after)]
  installed_put _ _ := rfl
  put_put _ _ _ := rfl
  put_installed _ := rfl
  installed_ofRegistry _ := rfl

/-- Filling the denylist. -/
def denied : Installation DenyEntry DenyIndex where
  nameOf := DenyEntry.integration
  Accepted _ entry := Denylist.Accepted entry.callers
  indexOf _ entry := Denylist.indexOf entry.callers
  build _ := Denylist.build
  command entry := .setDenied entry.integration entry.callers
  installed := Engine.denylist
  put engine denylist := { engine with denylist }
  build_eq_ok_iff := by
    intro registry entries built
    rw [Denylist.build_eq_ok_iff]
    refine and_congr_left fun _ => ?_
    exact ⟨fun accepted => ⟨accepted.names, accepted.each⟩, fun accepted => ⟨accepted.1, accepted.2⟩⟩
  asks_eq_ok_iff := by
    intro engine after entry
    simp only [Command.asks, Checks.map_eq_ok_iff, Denylist.set_eq_ok_iff, and_assoc,
      exists_and_left, exists_eq_left, eq_comm (b := after)]
  installed_put _ _ := rfl
  put_put _ _ _ := rfl
  put_installed _ := rfl
  installed_ofRegistry _ := rfl

/-- A batch agrees with its entries. It is accepted exactly when each entry is, whatever
is installed before. The calls for its entries, in any order and from an engine without
entries, all succeed and leave the built list and nothing else. The call for an entry,
whether it succeeds or fails, changes no other integration and not the other list. -/
structure Agrees {Entry β : Type} (installation : Installation Entry β) (registry : Registry)
    (entries : List Entry) : Prop where
  accepted : ∀ engine : Engine, engine.registry = registry →
    ((∃ built, installation.build registry entries = .ok built) ↔
      ∀ entry ∈ entries, (engine.call (installation.command entry)).1 = .ok ())
  anyOrder : ∀ built, installation.build registry entries = .ok built →
    ∀ reordered : List Entry, reordered.Perm entries →
      (Engine.ofRegistry registry).calls (reordered.map installation.command) =
        (reordered.map fun entry => (installation.command entry, .ok ()),
          installation.put (Engine.ofRegistry registry) built)
  own : ∀ (engine : Engine) (entry : Entry), ∃ list,
    (engine.call (installation.command entry)).2 = installation.put engine list ∧
      ∀ key, key ≠ integrationKey (installation.nameOf entry) →
        list.get? key = (installation.installed engine).get? key

section Calls

variable {Entry β : Type} (installation : Installation Entry β)

theorem call_fst_eq_ok_iff {engine : Engine} {entry : Entry} :
    (engine.call (installation.command entry)).1 = .ok () ↔
      integrationKey (installation.nameOf entry) ≠ "" ∧
        installation.Accepted engine.registry entry := by
  rw [Engine.call_eq]
  cases asked : (installation.command entry).asks engine with
  | ok after =>
      obtain ⟨named, accepted, _⟩ := installation.asks_eq_ok_iff.mp asked
      simp [named, accepted]
  | error error =>
      refine iff_of_false (by simp) fun ⟨named, accepted⟩ => ?_
      have succeeds := installation.asks_eq_ok_iff.mpr ⟨named, accepted, rfl⟩
      rw [asked] at succeeds
      cases succeeds

theorem call_of_accepted {engine : Engine} {entry : Entry}
    (named : integrationKey (installation.nameOf entry) ≠ "")
    (accepted : installation.Accepted engine.registry entry) :
    engine.call (installation.command entry) =
      (.ok (), installation.put engine ((installation.installed engine).insert
        (integrationKey (installation.nameOf entry))
        (installation.indexOf engine.registry entry))) :=
  Engine.call_eq_ok_iff.mpr (installation.asks_eq_ok_iff.mpr ⟨named, accepted, rfl⟩)

/-- The call for an entry writes under no other key and into no other list. -/
theorem call_own (engine : Engine) (entry : Entry) : ∃ list,
    (engine.call (installation.command entry)).2 = installation.put engine list ∧
      ∀ key, key ≠ integrationKey (installation.nameOf entry) →
        list.get? key = (installation.installed engine).get? key := by
  cases outcome : (engine.call (installation.command entry)).1 with
  | ok =>
      obtain ⟨named, accepted⟩ := installation.call_fst_eq_ok_iff.mp outcome
      rw [installation.call_of_accepted named accepted]
      refine ⟨_, rfl, fun key other => ?_⟩
      rw [Keyed.get?_insert, if_neg other.symm]
  | error error =>
      rw [Engine.call_snd_of_error outcome]
      exact ⟨_, (installation.put_installed engine).symm, fun _ _ => rfl⟩

/-- The calls for accepted entries succeed and store their indexes one after another. -/
theorem calls_of_accepted {entries : List Entry} {engine : Engine}
    (named : ∀ entry ∈ entries, integrationKey (installation.nameOf entry) ≠ "")
    (accepted : ∀ entry ∈ entries, installation.Accepted engine.registry entry) :
    engine.calls (entries.map installation.command) =
      (entries.map fun entry => (installation.command entry, .ok ()),
        installation.put engine ((entries.map fun entry =>
          (integrationKey (installation.nameOf entry),
            installation.indexOf engine.registry entry)).foldl
              (fun map stored => map.insert stored.1 stored.2) (installation.installed engine))) := by
  induction entries generalizing engine with
  | nil => simp [Engine.calls, installation.put_installed]
  | cons entry rest inductionHypothesis =>
      have succeeds := installation.call_of_accepted (named entry List.mem_cons_self)
        (accepted entry List.mem_cons_self)
      have sameRegistry := Engine.call_registry engine (installation.command entry)
      rw [succeeds] at sameRegistry
      have others := inductionHypothesis
        (fun other member => named other (List.mem_cons_of_mem _ member))
        (fun other member => sameRegistry.symm ▸ accepted other (List.mem_cons_of_mem _ member))
      rw [List.map_cons, Engine.calls_cons, succeeds, others, sameRegistry,
        installation.installed_put, installation.put_put]
      rfl

theorem agrees (registry : Registry) {entries : List Entry}
    (names : NamesAccepted (entries.map installation.nameOf)) :
    installation.Agrees registry entries where
  accepted := by
    rintro engine rfl
    simp only [installation.call_fst_eq_ok_iff, installation.build_eq_ok_iff, exists_eq_right]
    constructor
    · rintro ⟨_, each⟩ entry member
      exact ⟨names.nonempty _ (List.mem_map_of_mem member), each entry member⟩
    · exact fun each => ⟨names, fun entry member => (each entry member).2⟩
  anyOrder := by
    intro built succeeded reordered perm
    obtain ⟨⟨_, each⟩, rfl⟩ := installation.build_eq_ok_iff.mp succeeded
    have named : ∀ entry ∈ reordered, integrationKey (installation.nameOf entry) ≠ "" :=
      fun entry member => names.nonempty _ (List.mem_map_of_mem (perm.mem_iff.mp member))
    rw [installation.calls_of_accepted named fun entry member => each entry (perm.mem_iff.mp member),
      installation.installed_ofRegistry]
    have sameList : Keyed.ofList (reordered.map fun entry =>
          (integrationKey (installation.nameOf entry), installation.indexOf registry entry)) =
        Keyed.ofList (entries.map fun entry =>
          (integrationKey (installation.nameOf entry), installation.indexOf registry entry)) := by
      refine (Keyed.ofList_eq_of_perm (perm.map _).symm ?_).symm
      have distinct := names.distinct
      rw [List.map_map] at distinct ⊢
      exact distinct
    rw [← sameList]
    rfl
  own := installation.call_own

end Calls

end Installation

/-- In both lists a batch of entries whose names are accepted agrees with its entries,
installed one by one in any order. -/
theorem Engine.batch_agrees_with_calls (registry : Registry) :
    (∀ entries : List AllowEntry, NamesAccepted (entries.map AllowEntry.integration) →
        Installation.allowed.Agrees registry entries) ∧
      ∀ entries : List DenyEntry, NamesAccepted (entries.map DenyEntry.integration) →
        Installation.denied.Agrees registry entries :=
  ⟨fun _ names => Installation.allowed.agrees registry names,
    fun _ names => Installation.denied.agrees registry names⟩

namespace BatchSample

/-- A capability of all integrations that reads every path. -/
def readers : Registry :=
  Registry.empty.register "*" "read"
    (.optional [] fun _ => .ok [(Rule.onPath "/**").withMethod "get" .unrestricted])

/-- Entries for two integrations, one of them with a capability. -/
def allowed : List AllowEntry :=
  [⟨" GitHub", [⟨"ci", [⟨"read", Keyed.empty⟩], []⟩]⟩,
    ⟨"slack", [⟨"", [], [(Rule.onPath "/chat").withMethod "POST" .unrestricted]⟩]⟩]

/-- Entries that deny something in the same integrations. -/
def denied : List DenyEntry :=
  [⟨"github", [⟨"ci", [(Rule.onPath "/keys").withMethod "GET" .unrestricted]⟩]⟩, ⟨"SLACK ", []⟩]

end BatchSample

open BatchSample in
theorem Engine.batch_agrees_with_calls_sample :
    NamesAccepted (allowed.map AllowEntry.integration) ∧
      NamesAccepted (denied.map DenyEntry.integration) ∧
      (∃ built, Allowlist.build readers allowed = .ok built ∧
        (ofRegistry readers).calls
            [.setAllowed "slack" [⟨"", [], [(Rule.onPath "/chat").withMethod "POST" .unrestricted]⟩],
              .setAllowed " GitHub" [⟨"ci", [⟨"read", Keyed.empty⟩], []⟩]] =
          (allowed.reverse.map fun entry => (Installation.allowed.command entry, .ok ()),
            ⟨readers, built, Keyed.empty⟩)) ∧
      ∃ built, Denylist.build denied = .ok built ∧
        ((ofRegistry readers).calls (denied.reverse.map Installation.denied.command)).2 =
          ⟨readers, Keyed.empty, built⟩ := by
  have allowedNames : NamesAccepted (allowed.map AllowEntry.integration) :=
    ⟨by decide +kernel, by decide +kernel⟩
  have deniedNames : NamesAccepted (denied.map DenyEntry.integration) :=
    ⟨by decide +kernel, by decide +kernel⟩
  obtain ⟨allowAgrees, denyAgrees⟩ := batch_agrees_with_calls readers
  have allowBuilt : Allowlist.build readers allowed = .ok (Allowlist.listOf readers allowed) := by
    decide +kernel
  have denyBuilt : Denylist.build denied = .ok (Denylist.listOf denied) := by decide +kernel
  refine ⟨allowedNames, deniedNames, ⟨_, allowBuilt, ?_⟩, ⟨_, denyBuilt, ?_⟩⟩
  · exact (allowAgrees allowed allowedNames).anyOrder _ allowBuilt _ (List.reverse_perm allowed)
  · rw [(denyAgrees denied deniedNames).anyOrder _ denyBuilt _ (List.reverse_perm denied)]
    rfl

end CallPolicy
