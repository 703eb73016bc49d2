import CallPolicy.Proofs.ByteOrder
import CallPolicy.Proofs.Installed
import CallPolicy.Proofs.Reachable
import CallPolicy.Proofs.Ready

/-!
Contract: what holds of every allowlist that comes about.

Owns:
- the invariant of stored integrations and callers, which own and generated rules meet
  alike, and that every write keeps it;
- look-ups by the listed names, and the list of the callers of an integration.

Does not own: which constraint the stored rules give to a call.
-/

namespace CallPolicy

/-- What holds of a caller that is stored under a key: the key is its id, its
capabilities are expanded, and its rules are ready. -/
structure AllowCaller.StoredAs (key : String) (caller : AllowCaller) : Prop where
  named : key ≠ ""
  id : caller.id = key
  expanded : caller.capabilities = []
  ready : ∀ rule ∈ caller.rules, rule.Ready

namespace Allowlist

/-- What holds of the callers of an integration that are stored under a name. -/
structure StoredAs (name : String) (index : AllowIndex) : Prop where
  named : name ≠ ""
  normal : integrationKey name = name
  callers : ∀ stored ∈ index.entries, stored.2.StoredAs stored.1

/-- All integrations are stored as they have to be. -/
def WellStored (allowlist : Allowlist) : Prop :=
  ∀ installed ∈ allowlist.entries, StoredAs installed.1 installed.2

/-- The list shows every caller of an index once, in the order of the bytes of the ids.
It is what sorting by id gives, in whatever order the callers are walked. -/
structure Lists (index : AllowIndex) (listed : List AllowCaller) : Prop where
  complete : ∀ caller, caller ∈ listed ↔ ∃ key, index.get? key = some caller
  ordered : listed.Pairwise fun left right =>
    Text.Utf8.bytes left.id < Text.Utf8.bytes right.id
  sorts : ∀ walked : List AllowCaller, walked.Perm index.values →
    walked.mergeSort (fun left right => left.id ≤ right.id) = listed

/-! ### Writes -/

/-- The rules of accepted callers are stored ready, generated ones included. -/
theorem Accepted.storedAs {registry : Registry} {integration : String}
    {callers : List AllowCaller} (accepted : Accepted registry integration callers) :
    ∀ stored ∈ (indexOf registry integration callers).entries, stored.2.StoredAs stored.1 := by
  intro stored member
  obtain ⟨caller, isCaller, rfl⟩ := List.mem_map.mp (Keyed.mem_of_mem_ofList member)
  refine ⟨callerKey_ne_empty caller.id, rfl, rfl, fun rule isRule => ?_⟩
  obtain ⟨declared, isDeclared, rfl⟩ := List.mem_map.mp isRule
  exact (accepted.sound caller isCaller declared isDeclared).ready

theorem WellStored.writes {before after : Allowlist} (writes : before.Writes after)
    (stored : before.WellStored) : after.WellStored := by
  cases writes with
  | nothing => exact stored
  | set succeeded =>
      obtain ⟨named, accepted, rfl⟩ := set_eq_ok_iff.mp succeeded
      exact Keyed.forall_mem_insert
        ⟨named, integrationKey_integrationKey _, accepted.storedAs⟩ stored
  | replace built =>
      obtain ⟨accepted, rfl⟩ := build_eq_ok_iff.mp built
      intro installed member
      obtain ⟨entry, isEntry, rfl⟩ := List.mem_map.mp (Keyed.mem_of_mem_ofList member)
      exact ⟨accepted.names.nonempty _ (List.mem_map_of_mem isEntry),
        integrationKey_integrationKey _, (accepted.each entry isEntry).storedAs⟩

theorem wellStored_empty : WellStored Keyed.empty := by
  intro installed member
  cases member

/-! ### Lists of callers -/

section Listing

variable {name : String} {index : AllowIndex} (stored : StoredAs name index)

include stored

theorem StoredAs.get?_id {caller : AllowCaller} (member : caller ∈ index.values) :
    index.get? caller.id = some caller := by
  obtain ⟨entry, isEntry, rfl⟩ := List.mem_map.mp member
  rw [(stored.callers entry isEntry).id]
  exact Keyed.get?_eq_some_iff.mpr isEntry

theorem StoredAs.values_ordered :
    index.values.Pairwise fun left right => left.id < right.id := by
  refine List.pairwise_map.mpr (List.Pairwise.imp_of_mem ?_ index.rising)
  intro left right isLeft isRight below
  rw [(stored.callers left isLeft).id, (stored.callers right isRight).id]
  exact below

/-- The values of a stored index are what sorting by id gives. -/
theorem StoredAs.mergeSort_eq {walked : List AllowCaller} (perm : walked.Perm index.values) :
    walked.mergeSort (fun left right => left.id ≤ right.id) = index.values := by
  have transitive : ∀ first second third : AllowCaller, decide (first.id ≤ second.id) = true →
      decide (second.id ≤ third.id) = true → decide (first.id ≤ third.id) = true := by
    intro first second third below above
    simpa using String.le_trans (of_decide_eq_true below) (of_decide_eq_true above)
  have total : ∀ left right : AllowCaller,
      (decide (left.id ≤ right.id) || decide (right.id ≤ left.id)) = true := by
    intro left right
    simpa using String.le_total left.id right.id
  have sorted : (walked.mergeSort fun left right => left.id ≤ right.id).Pairwise
      fun left right => left.id ≤ right.id := by
    simpa using List.pairwise_mergeSort transitive total walked
  have rearranged := (List.mergeSort_perm walked fun left right => left.id ≤ right.id).trans perm
  refine rearranged.eq_of_pairwise ?_ sorted ?_
  · intro left right isLeft isRight below above
    have sameId := String.le_antisymm below above
    have found := stored.get?_id (rearranged.mem_iff.mp isLeft)
    rw [sameId, stored.get?_id isRight] at found
    exact (Option.some.inj found).symm
  · exact stored.values_ordered.imp fun below => String.not_lt.mp (String.lt_asymm below)

theorem StoredAs.lists : Lists index index.values where
  complete := by
    intro caller
    constructor
    · exact fun member => ⟨caller.id, stored.get?_id member⟩
    · rintro ⟨key, found⟩
      exact List.mem_map_of_mem (f := Prod.snd) (Keyed.get?_eq_some_iff.mp found)
  ordered := stored.values_ordered.imp Text.Utf8.bytes_lt_of_lt
  sorts := fun _ perm => stored.mergeSort_eq perm

end Listing

end Allowlist

/-! ### Reachable engines -/

/-- In every engine that is reached, integrations and callers are stored under their keys
with ready rules, each listed integration is found under its name, and the list of the
callers of an integration is complete and sorted. -/
theorem Engine.allowlist_wellStored {registry : Registry} {engine : Engine}
    (reachable : Reachable registry engine) :
    engine.allowlist.WellStored ∧
      (∀ installed ∈ engine.allowlist.entries,
        engine.allowlist.get? (integrationKey installed.1) = some installed.2) ∧
      ∀ integration index, engine.allowlist.get? (integrationKey integration) = some index →
        Allowlist.Lists index (engine.allowlist.callers integration) := by
  have stored := reachable.allowlist_invariant Allowlist.wellStored_empty
    fun before after => Allowlist.WellStored.writes
  refine ⟨stored, fun installed member => ?_, fun integration index found => ?_⟩
  · rw [(stored installed member).normal]
    exact Keyed.get?_eq_some_iff.mpr member
  · rw [Allowlist.callers, found]
    exact (stored _ (Keyed.get?_eq_some_iff.mp found)).lists

namespace StoredSample

/-- A capability of all integrations that reads every path. -/
def readers : Registry :=
  Registry.empty.register "*" "read"
    (.optional [] fun _ => .ok [(Rule.onPath "/**").withMethod "get" .unrestricted])

/-- Callers of an integration whose name ends in a capital sigma. One has a capability,
one is for everyone. The call after that names no integration. -/
def commands : List Command :=
  [.setAllowed " ΑΣ" [⟨"ci", [⟨"read", Keyed.empty⟩], []⟩,
      ⟨"", [], [(Rule.onPath "a//./b").withMethod "Put" .unrestricted]⟩],
    .setAllowed "" []]

/-- The engine after these calls. -/
def engine : Engine := ((Engine.ofRegistry readers).calls commands).2

end StoredSample

open StoredSample in
theorem Engine.allowlist_wellStored_sample :
    engine.allowlist.WellStored ∧
      (∃ index, engine.allowlist.get? (integrationKey "ας") = some index ∧
        Allowlist.Lists index (engine.allowlist.callers "ας")) ∧
      engine.allowlist.keys = ["ας"] ∧
      (engine.allowlist.callers "ας").map AllowCaller.id = ["*", "ci"] := by
  have reachable : Reachable readers engine := reachable_calls readers commands
  obtain ⟨stored, _, lists⟩ := allowlist_wellStored reachable
  have found : (engine.allowlist.get? (integrationKey "ας")).isSome = true := by
    decide +kernel
  obtain ⟨index, isIndex⟩ := Option.isSome_iff_exists.mp found
  exact ⟨stored, ⟨index, isIndex, lists "ας" index isIndex⟩, by decide +kernel, by decide +kernel⟩

end CallPolicy
