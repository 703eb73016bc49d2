import CallPolicy.Proofs.Isolation
import Mathlib.Data.List.Perm.Basic

/-!
Contract: denied callers and entries that are declared in another order.

Owns:
- lists whose items match each other in pairs, wherever they stand;
- that callers and entries with the same rules in another order are accepted alike, and
  that the same rules are held against every caller afterwards.

Does not own: that the order of held rules does not show in a decision.
-/

namespace CallPolicy

universe u v

/-! ### Matching lists -/

/-- The items of both lists go together in pairs, wherever they stand in the lists. -/
def Rearranged {α : Type u} (alike : α → α → Prop) (left right : List α) : Prop :=
  ∃ pairs : List (α × α), (pairs.map Prod.fst).Perm left ∧ (pairs.map Prod.snd).Perm right ∧
    ∀ pair ∈ pairs, alike pair.1 pair.2

namespace Rearranged

variable {α : Type u} {alike : α → α → Prop} {left right : List α}

theorem exists_right (rearranged : Rearranged alike left right) {item : α}
    (member : item ∈ left) : ∃ other ∈ right, alike item other := by
  obtain ⟨pairs, leftPerm, rightPerm, each⟩ := rearranged
  obtain ⟨pair, isPair, rfl⟩ := List.mem_map.mp (leftPerm.mem_iff.mpr member)
  exact ⟨pair.2, rightPerm.mem_iff.mp (List.mem_map_of_mem isPair), each pair isPair⟩

theorem exists_left (rearranged : Rearranged alike left right) {other : α}
    (member : other ∈ right) : ∃ item ∈ left, alike item other := by
  obtain ⟨pairs, leftPerm, rightPerm, each⟩ := rearranged
  obtain ⟨pair, isPair, rfl⟩ := List.mem_map.mp (rightPerm.mem_iff.mpr member)
  exact ⟨pair.1, leftPerm.mem_iff.mp (List.mem_map_of_mem isPair), each pair isPair⟩

/-- What items that go together agree on makes up the same list up to order. -/
theorem map_perm {β : Type v} (rearranged : Rearranged alike left right) (view : α → β)
    (agree : ∀ item other, alike item other → view item = view other) :
    (left.map view).Perm (right.map view) := by
  obtain ⟨pairs, leftPerm, rightPerm, each⟩ := rearranged
  have views : (pairs.map Prod.fst).map view = (pairs.map Prod.snd).map view := by
    rw [List.map_map, List.map_map]
    exact List.map_congr_left fun pair isPair => agree _ _ (each pair isPair)
  calc List.Perm (left.map view) ((pairs.map Prod.fst).map view) := (leftPerm.map view).symm
    _ = (pairs.map Prod.snd).map view := views
    List.Perm _ (right.map view) := rightPerm.map view

end Rearranged

/-- The caller declares the same rules in another order. -/
structure DenyCaller.Reordered (left right : DenyCaller) : Prop where
  id : left.id = right.id
  rules : left.rules.Perm right.rules

/-- The entry declares the same callers in another order, each with its rules in another
order. -/
structure DenyEntry.Reordered (left right : DenyEntry) : Prop where
  integration : left.integration = right.integration
  callers : Rearranged DenyCaller.Reordered left.callers right.callers

namespace Denylist

/-- The same rules are held against every caller of every integration. -/
def HoldsAlike (left right : Denylist) : Prop :=
  ∀ integration caller rule,
    rule ∈ left.heldFor integration caller ↔ rule ∈ right.heldFor integration caller

/-! ### One integration -/

section Callers

variable {left right : List DenyCaller}

theorem Accepted.rearranged (accepted : Accepted left)
    (rearranged : Rearranged DenyCaller.Reordered left right) : Accepted right where
  distinct := by
    have keys := rearranged.map_perm (fun caller => callerKey caller.id)
      fun _ _ alike => congrArg callerKey alike.id
    exact keys.nodup_iff.mp accepted.distinct
  sound := by
    intro caller isCaller rule isRule
    obtain ⟨item, isItem, alike⟩ := rearranged.exists_left isCaller
    exact accepted.sound item isItem rule (alike.rules.mem_iff.mpr isRule)
  ownDistinct := by
    intro caller isCaller
    obtain ⟨item, isItem, alike⟩ := rearranged.exists_left isCaller
    have pairs := alike.rules.flatMap_right Rule.pairs
    exact pairs.nodup_iff.mp (accepted.ownDistinct item isItem)

/-- An index holds under a key exactly the prepared rules of the callers of that key. -/
theorem mem_rulesOf_indexOf {callers : List DenyCaller} (accepted : Accepted callers)
    {key : String} {rule : Rule} :
    rule ∈ rulesOf (indexOf callers) key ↔
      ∃ caller ∈ callers, callerKey caller.id = key ∧ rule ∈ caller.rules.map Rule.prepare := by
  rw [rulesOf, get?_indexOf accepted]
  exact mem_getD_find?_name accepted.distinct

theorem rulesOf_rearranged (accepted : Accepted left)
    (rearranged : Rearranged DenyCaller.Reordered left right) (key : String) (rule : Rule) :
    rule ∈ rulesOf (indexOf right) key ↔ rule ∈ rulesOf (indexOf left) key := by
  rw [mem_rulesOf_indexOf accepted, mem_rulesOf_indexOf (accepted.rearranged rearranged)]
  constructor
  · rintro ⟨other, isOther, isKey, held⟩
    obtain ⟨item, isItem, alike⟩ := rearranged.exists_left isOther
    exact ⟨item, isItem, alike.id ▸ isKey, (alike.rules.map _).mem_iff.mpr held⟩
  · rintro ⟨item, isItem, isKey, held⟩
    obtain ⟨other, isOther, alike⟩ := rearranged.exists_right isItem
    exact ⟨other, isOther, alike.id ▸ isKey, (alike.rules.map _).mem_iff.mp held⟩

theorem heldFor_insert (denylist : Denylist) (key : String) (index : DenyIndex)
    (integration caller : String) :
    heldFor (denylist.insert key index) integration caller =
      if key = integrationKey integration then rulesOf index (callerKey caller)
      else denylist.heldFor integration caller := by
  rw [heldFor, Keyed.get?_insert]
  split <;> rfl

/-- Callers in another order are installed alike. -/
theorem set_rearranged {denylist before : Denylist} {integration : String}
    (rearranged : Rearranged DenyCaller.Reordered left right)
    (succeeded : denylist.set integration left = .ok before) :
    ∃ after, denylist.set integration right = .ok after ∧ after.HoldsAlike before := by
  obtain ⟨named, accepted, rfl⟩ := set_eq_ok_iff.mp succeeded
  refine ⟨_, set_eq_ok_iff.mpr ⟨named, accepted.rearranged rearranged, rfl⟩, ?_⟩
  intro name caller rule
  rw [heldFor_insert, heldFor_insert]
  split
  · exact rulesOf_rearranged accepted rearranged _ rule
  · rfl

end Callers

/-! ### Batches -/

section Entries

variable {left right : List DenyEntry}

theorem BatchAccepted.rearranged (accepted : BatchAccepted left)
    (rearranged : Rearranged DenyEntry.Reordered left right) : BatchAccepted right where
  names := by
    have names := rearranged.map_perm DenyEntry.integration fun _ _ alike => alike.integration
    exact ⟨(names.map integrationKey).nodup_iff.mp accepted.names.distinct,
      fun name member => accepted.names.nonempty name (names.mem_iff.mpr member)⟩
  each := by
    intro entry isEntry
    obtain ⟨item, isItem, alike⟩ := rearranged.exists_left isEntry
    exact (accepted.each item isItem).rearranged alike.callers

/-- A batch holds against a caller what the entries of its integration hold. -/
theorem mem_heldFor_listOf {entries : List DenyEntry} (accepted : BatchAccepted entries)
    {integration caller : String} {rule : Rule} :
    rule ∈ (listOf entries).heldFor integration caller ↔
      ∃ entry ∈ entries, integrationKey entry.integration = integrationKey integration ∧
        rule ∈ rulesOf (indexOf entry.callers) (callerKey caller) := by
  have distinct := accepted.names.distinct
  rw [List.map_map] at distinct
  rw [heldFor, get?_listOf accepted, Option.map_map]
  exact mem_getD_find?_name distinct

/-- Entries in another order are installed alike. -/
theorem build_rearranged {before : Denylist}
    (rearranged : Rearranged DenyEntry.Reordered left right)
    (built : build left = .ok before) :
    ∃ after, build right = .ok after ∧ after.HoldsAlike before := by
  obtain ⟨accepted, rfl⟩ := build_eq_ok_iff.mp built
  have others := accepted.rearranged rearranged
  refine ⟨_, build_eq_ok_iff.mpr ⟨others, rfl⟩, fun integration caller rule => ?_⟩
  rw [mem_heldFor_listOf accepted, mem_heldFor_listOf others]
  constructor
  · rintro ⟨other, isOther, isKey, held⟩
    obtain ⟨item, isItem, alike⟩ := rearranged.exists_left isOther
    have same := rulesOf_rearranged (accepted.each item isItem) alike.callers
    exact ⟨item, isItem, alike.integration ▸ isKey, (same _ rule).mp held⟩
  · rintro ⟨item, isItem, isKey, held⟩
    obtain ⟨other, isOther, alike⟩ := rearranged.exists_right isItem
    have same := rulesOf_rearranged (accepted.each item isItem) alike.callers
    exact ⟨other, isOther, alike.integration ▸ isKey, (same _ rule).mpr held⟩

end Entries

end Denylist

end CallPolicy
