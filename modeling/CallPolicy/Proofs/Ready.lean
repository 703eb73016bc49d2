import CallPolicy.Proofs.Cleaning
import CallPolicy.Proofs.Keys
import CallPolicy.Proofs.Prepared
import Mathlib.Data.List.Perm.Basic

/-!
Contract: rules as they are stored.

Owns:
- what holds of every rule that a list holds, and that preparation brings it about and
  changes nothing afterwards;
- the slots that stored rules take, and their agreement with the pairs of path and
  method by which repetitions are told.

Does not own: in which lists the rules are stored.
-/

namespace CallPolicy

namespace Rule

/-- What holds of a stored rule: its path is not blank, its segments are those of its
path, it has some method, each method is a token in upper case, and its constraints name
only headers that can exist. -/
structure Ready (rule : Rule) : Prop where
  path : Params.isBlankText rule.path = false
  segments : rule.segments = Path.clean rule.path
  methods : rule.methods.isEmpty = false
  tokens : ∀ method ∈ rule.methods.keys,
    Text.Ascii.isToken method = true ∧ Text.Ascii.upper method = method
  headers : ∀ entry ∈ rule.methods.entries, ∀ header ∈ entry.2.headers.keys,
    (headerName? (Text.Utf8.bytes header)).isSome = true

/-! ### Preparation -/

theorem mem_prepare {rule : Rule} {entry : String × Constraint}
    (member : entry ∈ rule.prepare.methods.entries) :
    ∃ name, (name, entry.2) ∈ rule.methods.entries ∧ Text.Ascii.upper name = entry.1 := by
  obtain ⟨declared, isDeclared, same⟩ := List.mem_map.mp (Keyed.mem_of_mem_ofList member)
  obtain ⟨upper, constraint⟩ := Prod.mk.inj same
  exact ⟨declared.1, constraint ▸ isDeclared, upper⟩

theorem prepare_isEmpty {rule : Rule} (nonempty : rule.methods.isEmpty = false) :
    rule.prepare.methods.isEmpty = false := by
  obtain ⟨entry, rest, entries⟩ := List.exists_cons_of_ne_nil
    (List.isEmpty_eq_false_iff.mp nonempty)
  have declared : entry.2 ∈ rule.constraintsFor entry.1 :=
    mem_constraintsFor.mpr ⟨entry.1, entries ▸ List.mem_cons_self, rfl⟩
  have kept := List.getLast?_eq_some_getLast (List.ne_nil_of_mem declared)
  rw [← get?_prepare, Keyed.get?_eq_some_iff] at kept
  exact List.isEmpty_eq_false_iff.mpr (List.ne_nil_of_mem kept)

/-- A rule that passes the checks is stored ready. -/
theorem Sound.ready {rule : Rule} (sound : rule.Sound) : rule.prepare.Ready where
  path := sound.path
  segments := rfl
  methods := prepare_isEmpty sound.methods
  tokens := by
    intro method isKey
    obtain ⟨entry, member, rfl⟩ := List.mem_map.mp isKey
    obtain ⟨name, declared, upper⟩ := mem_prepare member
    rw [← upper]
    exact ⟨(sound.each _ declared).1, Text.Ascii.upper_upper name⟩
  headers := by
    intro entry member
    obtain ⟨name, declared, _⟩ := mem_prepare member
    exact (sound.each _ declared).2

/-- A stored rule passes the checks again. -/
theorem Ready.sound {rule : Rule} (ready : rule.Ready) : rule.Sound where
  path := ready.path
  methods := ready.methods
  each := by
    intro entry member
    obtain ⟨token, upper⟩ := ready.tokens entry.1 (List.mem_map_of_mem member)
    exact ⟨by rw [upper, token], ready.headers entry member⟩

theorem Ready.upper_entries {rule : Rule} (ready : rule.Ready) :
    (rule.methods.entries.map fun entry => (Text.Ascii.upper entry.1, entry.2)) =
      rule.methods.entries := by
  refine (List.map_congr_left fun entry member => ?_).trans (List.map_id _)
  rw [(ready.tokens entry.1 (List.mem_map_of_mem member)).2]
  rfl

/-- A stored rule is prepared already. -/
theorem Ready.prepare_eq {rule : Rule} (ready : rule.Ready) : rule.prepare = rule := by
  rw [prepare, ready.upper_entries, Keyed.ofList_entries, ← ready.segments]

theorem map_prepare_of_ready {rules : List Rule} (ready : ∀ rule ∈ rules, rule.Ready) :
    rules.map prepare = rules :=
  (List.map_congr_left fun rule member => (ready rule member).prepare_eq).trans (List.map_id _)

theorem Ready.methodsDistinct {rule : Rule} (ready : rule.Ready) : rule.MethodsDistinct := by
  have names : (rule.methods.entries.map fun entry => Text.Ascii.upper entry.1) =
      rule.methods.entries.map Prod.fst := by
    conv_rhs => rw [← ready.upper_entries, List.map_map]
    rfl
  rw [MethodsDistinct, names]
  exact rule.methods.keys_nodup

/-! ### Slots -/

/-- The slots that a stored rule takes: its segments with each of its methods. -/
def slots (rule : Rule) : List (List String × String) :=
  rule.methods.keys.map fun method => (rule.segments, method)

/-- The pair of path and method by which a slot is told from others before its rule is
stored. -/
def slotText (slot : List String × String) : String × String :=
  ("/" ++ "/".intercalate slot.1, slot.2)

/-- The pairs that a rule declares are those of the slots it takes when it is stored. -/
theorem pairs_perm {rule : Rule} (distinct : rule.MethodsDistinct) :
    rule.pairs.Perm (rule.prepare.slots.map slotText) := by
  have stored : rule.prepare.methods.entries.Perm
      (rule.methods.entries.map fun entry => (Text.Ascii.upper entry.1, entry.2)) := by
    refine Keyed.ofList_perm ?_
    rw [List.map_map]
    exact distinct
  have taken : rule.prepare.slots.map slotText =
      rule.prepare.methods.entries.map fun entry => (Path.cleanText rule.path, entry.1) := by
    simp [slots, slotText, Keyed.keys, prepare, Path.cleanText]
  have declared : rule.pairs =
      (rule.methods.entries.map fun entry => (Text.Ascii.upper entry.1, entry.2)).map fun entry =>
        (Path.cleanText rule.path, entry.1) := by
    simp [pairs]
  rw [taken, declared]
  exact (stored.map _).symm

theorem flatMap_pairs_perm {rules : List Rule} (distinct : ∀ rule ∈ rules, rule.MethodsDistinct) :
    (rules.flatMap pairs).Perm (((rules.map prepare).flatMap slots).map slotText) := by
  rw [List.map_flatMap, List.flatMap_map]
  exact List.Perm.flatMap_left rules fun rule member => pairs_perm (distinct rule member)

/-- Rules that declare no pair twice take no slot twice. -/
theorem slots_nodup {rules : List Rule} (distinct : (rules.flatMap pairs).Nodup) :
    ((rules.map prepare).flatMap slots).Nodup := by
  have each : ∀ rule ∈ rules, rule.MethodsDistinct := fun rule member =>
    methodsDistinct_of_mem distinct member
  exact ((flatMap_pairs_perm each).nodup_iff.mp distinct).of_map

theorem Ready.clean_slotText {rule : Rule} (ready : rule.Ready) {slot : List String × String}
    (member : slot ∈ rule.slots) : Path.clean (slotText slot).1 = slot.1 := by
  obtain ⟨method, _, rfl⟩ := List.mem_map.mp member
  refine Path.clean_joined fun segment isSegment => ?_
  rw [ready.segments] at isSegment
  exact Path.named_of_mem_clean isSegment

/-- Segments of stored rules are clean, so the text that joins them tells slots apart. -/
theorem slot_eq_of_slotText {rules : List Rule} (ready : ∀ rule ∈ rules, rule.Ready)
    {left right : List String × String} (isLeft : left ∈ rules.flatMap slots)
    (isRight : right ∈ rules.flatMap slots) (same : slotText left = slotText right) :
    left = right := by
  have clean : ∀ slot ∈ rules.flatMap slots, Path.clean (slotText slot).1 = slot.1 := by
    intro slot member
    obtain ⟨rule, isRule, isSlot⟩ := List.mem_flatMap.mp member
    exact (ready rule isRule).clean_slotText isSlot
  have segments : left.1 = right.1 := by
    rw [← clean left isLeft, ← clean right isRight, same]
  exact Prod.ext segments ((Prod.mk.inj same).2)

/-- Stored rules that take no slot twice declare no pair twice. -/
theorem pairs_nodup {rules : List Rule} (ready : ∀ rule ∈ rules, rule.Ready)
    (distinct : (rules.flatMap slots).Nodup) : (rules.flatMap pairs).Nodup := by
  have each : ∀ rule ∈ rules, rule.MethodsDistinct := fun rule member =>
    (ready rule member).methodsDistinct
  rw [(flatMap_pairs_perm each).nodup_iff, map_prepare_of_ready ready]
  exact distinct.map_on fun left isLeft right isRight => slot_eq_of_slotText ready isLeft isRight

/-- The pairs that a stored rule declares are the texts of the slots it takes, in their
order. -/
theorem Ready.pairs_eq {rule : Rule} (ready : rule.Ready) :
    rule.pairs = rule.slots.map slotText := by
  rw [pairs, slots, Keyed.keys, List.map_map, List.map_map]
  refine List.map_congr_left fun entry member => ?_
  rw [(ready.tokens entry.1 (List.mem_map_of_mem member)).2, Path.cleanText, ← ready.segments]
  rfl

end Rule

end CallPolicy
