import CallPolicy.Proofs.Installed
import CallPolicy.Proofs.Reachable
import CallPolicy.Proofs.Ready

/-!
Contract: what holds of every denylist that comes about.

Owns:
- the invariant of stored integrations and callers, and that every write keeps it;
- that the callers that are listed for an integration are accepted again, and that
  installing them changes nothing.

Does not own: which requests the stored rules refuse.

## Why both directions are needed

Repetitions are told by the joined text of a path, before rules are stored. Requests meet
the segments and the methods that are stored. The invariant speaks of the latter, so a
write has to bring it from the texts to the segments, and a second installation has to
take it back.
-/

namespace CallPolicy

namespace Denylist

/-- What holds of the callers of an integration that are stored under a name: their keys
are normal and differ, their rules are ready, and no two methods of the rules of one
caller take the same slot. -/
structure StoredAs (name : String) (index : DenyIndex) : Prop where
  named : name ≠ ""
  normal : integrationKey name = name
  unique : index.keys.Nodup
  callers : ∀ key ∈ index.keys, callerKey key = key
  ready : ∀ stored ∈ index.entries, ∀ rule ∈ stored.2, rule.Ready
  distinct : ∀ stored ∈ index.entries, (stored.2.flatMap Rule.slots).Nodup

/-- All integrations are stored as they have to be, each under a name of its own. -/
structure WellStored (denylist : Denylist) : Prop where
  unique : denylist.keys.Nodup
  each : ∀ installed ∈ denylist.entries, StoredAs installed.1 installed.2

/-! ### Writes -/

/-- Accepted callers are stored ready and without repetitions. -/
theorem Accepted.storedAs {callers : List DenyCaller} (accepted : Accepted callers)
    {integration : String} (named : integrationKey integration ≠ "") :
    StoredAs (integrationKey integration) (indexOf callers) where
  named := named
  normal := integrationKey_integrationKey integration
  unique := Keyed.keys_nodup _
  callers := by
    intro key isKey
    obtain ⟨stored, member, rfl⟩ := List.mem_map.mp isKey
    obtain ⟨caller, _, rfl⟩ := List.mem_map.mp (Keyed.mem_of_mem_ofList member)
    exact callerKey_callerKey caller.id
  ready := by
    intro stored member rule isRule
    obtain ⟨caller, isCaller, rfl⟩ := List.mem_map.mp (Keyed.mem_of_mem_ofList member)
    obtain ⟨declared, isDeclared, rfl⟩ := List.mem_map.mp isRule
    exact (accepted.sound caller isCaller declared isDeclared).ready
  distinct := by
    intro stored member
    obtain ⟨caller, isCaller, rfl⟩ := List.mem_map.mp (Keyed.mem_of_mem_ofList member)
    exact Rule.slots_nodup (accepted.ownDistinct caller isCaller)

theorem WellStored.writes {before after : Denylist} (writes : before.Writes after)
    (stored : before.WellStored) : after.WellStored := by
  refine ⟨Keyed.keys_nodup after, ?_⟩
  cases writes with
  | nothing => exact stored.each
  | set succeeded =>
      obtain ⟨named, accepted, rfl⟩ := set_eq_ok_iff.mp succeeded
      exact Keyed.forall_mem_insert (accepted.storedAs named) stored.each
  | replace built =>
      obtain ⟨accepted, rfl⟩ := build_eq_ok_iff.mp built
      intro installed member
      obtain ⟨entry, isEntry, rfl⟩ := List.mem_map.mp (Keyed.mem_of_mem_ofList member)
      have named := accepted.names.nonempty _ (List.mem_map_of_mem isEntry)
      exact (accepted.each entry isEntry).storedAs named

theorem wellStored_empty : WellStored Keyed.empty where
  unique := List.nodup_nil
  each := by
    intro installed member
    cases member

/-! ### Installing what is listed -/

section Listing

/-- The callers that are listed for an index. -/
def listing (index : DenyIndex) : List DenyCaller :=
  index.entries.map fun entry => ⟨entry.1, entry.2⟩

variable {name : String} {index : DenyIndex} (stored : StoredAs name index)

include stored

/-- The listed callers pass all checks. -/
theorem StoredAs.accepted : Accepted (listing index) where
  distinct := by
    have keys : ((listing index).map fun caller => callerKey caller.id) = index.keys := by
      rw [listing, List.map_map]
      exact List.map_congr_left fun entry member =>
        stored.callers entry.1 (List.mem_map_of_mem member)
    rw [keys]
    exact stored.unique
  sound := by
    intro caller isCaller rule isRule
    obtain ⟨entry, member, rfl⟩ := List.mem_map.mp isCaller
    exact (stored.ready entry member rule isRule).sound
  ownDistinct := by
    intro caller isCaller
    obtain ⟨entry, member, rfl⟩ := List.mem_map.mp isCaller
    exact Rule.pairs_nodup (stored.ready entry member) (stored.distinct entry member)

/-- The listed callers are stored as they were. -/
theorem StoredAs.indexOf_listing : indexOf (listing index) = index := by
  have same : ((listing index).map fun caller =>
      (callerKey caller.id, caller.rules.map Rule.prepare)) = index.entries := by
    rw [listing, List.map_map]
    refine (List.map_congr_left fun entry member => ?_).trans (List.map_id _)
    have key : callerKey entry.1 = entry.1 :=
      stored.callers entry.1 (List.mem_map_of_mem member)
    have rules : entry.2.map Rule.prepare = entry.2 :=
      Rule.map_prepare_of_ready (stored.ready entry member)
    exact Prod.ext key rules
  rw [indexOf, same, Keyed.ofList_entries]

end Listing

/-- Installing the callers that are listed for an installed integration succeeds and
changes nothing. -/
theorem WellStored.set_callers {denylist : Denylist} (stored : denylist.WellStored)
    {integration : String} {index : DenyIndex}
    (found : denylist.get? (integrationKey integration) = some index) :
    denylist.set integration (denylist.callers integration) = .ok denylist := by
  have storedIndex := stored.each _ (Keyed.get?_eq_some_iff.mp found)
  have listed : denylist.callers integration = listing index := by
    rw [callers, found]
    rfl
  rw [listed, set_eq_ok_iff, storedIndex.indexOf_listing, Keyed.insert_of_get? found]
  exact ⟨storedIndex.named, storedIndex.accepted, rfl⟩

end Denylist

/-! ### Reachable engines -/

/-- In every engine that is reached, the rules of denied callers are stored ready and
without repetitions, under normal keys. Installing what is listed for an installed
integration succeeds and leaves the engine as it is. -/
theorem Engine.denylist_wellStored {registry : Registry} {engine : Engine}
    (reachable : Reachable registry engine) :
    engine.denylist.WellStored ∧
      ∀ integration index, engine.denylist.get? (integrationKey integration) = some index →
        engine.call (.setDenied integration (engine.denylist.callers integration)) =
          (.ok (), engine) := by
  have stored := reachable.denylist_invariant Denylist.wellStored_empty
    fun before after => Denylist.WellStored.writes
  refine ⟨stored, fun integration index found => ?_⟩
  rw [call_eq_ok_iff, Command.asks, stored.set_callers found]
  rfl

namespace DeniedSample

/-- Rules with paths and methods in several spellings. A caller without an id is one for
everyone. The last call repeats a pair of path and method, and fails. -/
def commands : List Command :=
  [.setDenied " İ " [⟨"ci", [(Rule.onPath "a//./b").withMethod "Put" .unrestricted,
        (Rule.onPath "/a").withMethod "put" .unrestricted]⟩,
      ⟨"", [(Rule.onPath "/**").withMethod "delete" .unrestricted]⟩],
    .setDenied "github" [⟨"ci", [(Rule.onPath "/a").withMethod "get" .unrestricted,
      (Rule.onPath "a/").withMethod "GET" .unrestricted]⟩]]

/-- The engine after these calls. -/
def engine : Engine := ((Engine.ofRegistry Registry.empty).calls commands).2

end DeniedSample

open DeniedSample in
theorem Engine.denylist_wellStored_sample :
    engine.denylist.WellStored ∧ engine.denylist.keys = [integrationKey "İ"] ∧
      (engine.denylist.callers "İ").map DenyCaller.id = ["*", "ci"] ∧
      engine.call (.setDenied "İ" (engine.denylist.callers "İ")) = (.ok (), engine) := by
  have reachable : Reachable Registry.empty engine := reachable_calls Registry.empty commands
  obtain ⟨stored, again⟩ := denylist_wellStored reachable
  have found : (engine.denylist.get? (integrationKey "İ")).isSome = true := by
    decide +kernel
  obtain ⟨index, isIndex⟩ := Option.isSome_iff_exists.mp found
  exact ⟨stored, by decide +kernel, by decide +kernel, again "İ" index isIndex⟩

end CallPolicy
