import CallPolicy.Json.Cover
import CallPolicy.Proofs.Doubles
import CallPolicy.Proofs.Entries
import Mathlib.Logic.Relation

/-!
Contract: the containment of JSON values as an order on their structure.

Owns:
- values without repeated names, which hold themselves;
- edits at any depth, and those that only add to a value or only take from it;
- that a value which gains holds no less, and that a value which loses asks no more.

Does not own: when two numbers are the same.

## Why names must not repeat

A look-up finds the first member of a name. An object with a second member of the same
name asks for it, too, and holds only the first, so it need not hold itself. Decoded values
are canonical and have no such objects. Edits need no such condition.
-/

namespace CallPolicy

theorem Number.same_self (number : Number) : number.same number = true := by
  unfold Number.same
  cases number with
  | real value => exact Binary64.same_iff_value_eq.mpr rfl
  | integer value =>
      by_cases small : value ≤ Number.highestSigned
      · simp [Number.signed?, small]
      · have nonnegative : 0 ≤ value := by
          unfold Number.highestSigned at small
          omega
        simp [Number.signed?, Number.unsigned?, small, nonnegative]

namespace Json

/-! ### Containment item by item and member by member -/

theorem coversItems_iff {items wanted : List Json} :
    coversItems items wanted = true ↔
      ∀ want ∈ wanted, ∃ item ∈ items, covers item want = true := by
  induction wanted with
  | nil => simp [coversItems]
  | cons want rest inductionHypothesis =>
      rw [coversItems, Bool.and_eq_true, inductionHypothesis, List.any_eq_true,
        List.forall_mem_cons]

theorem coversMembers_iff {members wanted : List (String × Json)} :
    coversMembers members wanted = true ↔
      ∀ want ∈ wanted, ∃ value, lookupEntry want.1 members = some value ∧
        covers value want.2 = true := by
  induction wanted with
  | nil => simp [coversMembers]
  | cons want rest inductionHypothesis =>
      rw [coversMembers, Bool.and_eq_true, inductionHypothesis, List.forall_mem_cons]
      apply and_congr_left'
      cases lookupEntry want.1 members with
      | none => simp
      | some value => simp

/-! ### Values hold themselves -/

/-- No object in the value has two members of one name. -/
inductive NamesDistinct : Json → Prop where
  | null : NamesDistinct .null
  | bool (value : Bool) : NamesDistinct (.bool value)
  | number (value : Number) : NamesDistinct (.number value)
  | string (value : String) : NamesDistinct (.string value)
  | array {items : List Json} (each : ∀ item ∈ items, NamesDistinct item) :
      NamesDistinct (.array items)
  | object {members : List (String × Json)} (distinct : (members.map Prod.fst).Nodup)
      (each : ∀ member ∈ members, NamesDistinct member.2) : NamesDistinct (.object members)

theorem covers_self {value : Json} (distinct : NamesDistinct value) :
    covers value value = true := by
  induction distinct with
  | null => rfl
  | bool value => exact beq_self_eq_true value
  | number value => exact value.same_self
  | string value => exact beq_self_eq_true value
  | array each inductionHypothesis =>
      apply coversItems_iff.mpr
      intro item member
      exact ⟨item, member, inductionHypothesis item member⟩
  | object distinct each inductionHypothesis =>
      apply coversMembers_iff.mpr
      intro member isMember
      exact ⟨member.2, (lookupEntry_eq_some_iff distinct).mpr isMember,
        inductionHypothesis member isMember⟩

mutual

theorem namesDistinct_canonical : ∀ value : Json, NamesDistinct value.canonical
  | .null => .null
  | .bool value => .bool value
  | .number value => .number value
  | .string value => .string value
  | .array items => .array (namesDistinct_canonicalItems [] (by simp) items)
  | .object members =>
      .object (canonicalMembers Keyed.empty members).keys_nodup
        (namesDistinct_canonicalMembers Keyed.empty (by simp [Keyed.empty]) members)

theorem namesDistinct_canonicalItems (done : List Json) (each : ∀ item ∈ done, NamesDistinct item) :
    ∀ items : List Json, ∀ item ∈ canonicalItems done items, NamesDistinct item
  | [] => fun item member => each item (List.mem_reverse.mp member)
  | first :: rest =>
      namesDistinct_canonicalItems (first.canonical :: done)
        (List.forall_mem_cons.mpr ⟨namesDistinct_canonical first, each⟩) rest

theorem namesDistinct_canonicalMembers (done : Keyed Json)
    (each : ∀ member ∈ done.entries, NamesDistinct member.2) :
    ∀ members : List (String × Json), ∀ member ∈ (canonicalMembers done members).entries,
      NamesDistinct member.2
  | [] => each
  | (name, value) :: rest =>
      namesDistinct_canonicalMembers (done.insert name value.canonical)
        (fun member isMember => by
          rcases mem_insertEntry isMember with isNew | old
          · rw [isNew]
            exact namesDistinct_canonical value
          · exact each member old) rest

end

/-! ### Edits -/

/-- Something is added to the outermost object or array, or the array is reordered. -/
inductive Gains : Json → Json → Prop where
  | member (before after : List (String × Json)) {name : String} (value : Json)
      (fresh : lookupEntry name (before ++ after) = none) :
      Gains (.object (before ++ after)) (.object (before ++ (name, value) :: after))
  | item (before after : List Json) (value : Json) :
      Gains (.array (before ++ after)) (.array (before ++ value :: after))
  | reorder {items reordered : List Json} (rearranged : items.Perm reordered) :
      Gains (.array items) (.array reordered)

/-- Something is taken from the outermost object or array, or an item of the array is
repeated, or the array is reordered. -/
inductive Loses : Json → Json → Prop where
  | member (before after : List (String × Json)) (member : String × Json) :
      Loses (.object (before ++ member :: after)) (.object (before ++ after))
  | item (before after : List Json) (value : Json) :
      Loses (.array (before ++ value :: after)) (.array (before ++ after))
  | repeated (before after : List Json) {value : Json} (present : value ∈ before ++ after) :
      Loses (.array (before ++ after)) (.array (before ++ value :: after))
  | reorder {items reordered : List Json} (rearranged : items.Perm reordered) :
      Loses (.array items) (.array reordered)

/-- An edit is made somewhere in a value. -/
inductive AtDepth (edit : Json → Json → Prop) : Json → Json → Prop where
  | here {old new : Json} (edited : edit old new) : AtDepth edit old new
  | inItem (before after : List Json) {old new : Json} (inside : AtDepth edit old new) :
      AtDepth edit (.array (before ++ old :: after)) (.array (before ++ new :: after))
  | inMember (before after : List (String × Json)) (name : String) {old new : Json}
      (inside : AtDepth edit old new) :
      AtDepth edit (.object (before ++ (name, old) :: after))
        (.object (before ++ (name, new) :: after))

/-! ### Gaining holds more -/

/-- The second value holds everything that the first one holds. -/
def HoldsMore (old new : Json) : Prop :=
  ∀ wanted, covers old wanted = true → covers new wanted = true

theorem HoldsMore.refl (value : Json) : HoldsMore value value := fun _ held => held

theorem holdsMore_array {items more : List Json}
    (each : ∀ item ∈ items, ∃ other ∈ more, HoldsMore item other) :
    HoldsMore (.array items) (.array more) := by
  intro wanted held
  cases wanted with
  | array wanted =>
      apply coversItems_iff.mpr
      intro want member
      obtain ⟨item, isItem, covered⟩ := coversItems_iff.mp held want member
      obtain ⟨other, isOther, holdsMore⟩ := each item isItem
      exact ⟨other, isOther, holdsMore want covered⟩
  | null | bool _ | number _ | string _ | object _ => cases held

theorem holdsMore_object {members more : List (String × Json)}
    (each : ∀ name value, lookupEntry name members = some value →
      ∃ other, lookupEntry name more = some other ∧ HoldsMore value other) :
    HoldsMore (.object members) (.object more) := by
  intro wanted held
  cases wanted with
  | object wanted =>
      apply coversMembers_iff.mpr
      intro want member
      obtain ⟨value, found, covered⟩ := coversMembers_iff.mp held want member
      obtain ⟨other, foundOther, holdsMore⟩ := each want.1 value found
      exact ⟨other, foundOther, holdsMore want.2 covered⟩
  | null | bool _ | number _ | string _ | array _ => cases held

theorem Gains.holdsMore {old new : Json} (gains : Gains old new) : HoldsMore old new := by
  cases gains with
  | @member before after name value fresh =>
      apply holdsMore_object
      intro sought found isFound
      refine ⟨found, ?_, .refl found⟩
      have different : name ≠ sought := by
        rintro rfl
        rw [fresh] at isFound
        cases isFound
      rw [lookupEntry_append, lookupEntry_cons, if_neg different, ← lookupEntry_append]
      exact isFound
  | item before after value =>
      apply holdsMore_array
      intro item isItem
      have stays : item ∈ before ++ value :: after :=
        List.perm_middle.mem_iff.mpr (List.mem_cons_of_mem _ isItem)
      exact ⟨item, stays, .refl item⟩
  | reorder rearranged =>
      apply holdsMore_array
      intro item isItem
      exact ⟨item, rearranged.mem_iff.mp isItem, .refl item⟩

theorem AtDepth.holdsMore {old new : Json} (gains : AtDepth Gains old new) :
    HoldsMore old new := by
  induction gains with
  | here edited => exact edited.holdsMore
  | @inItem before after old new inside inductionHypothesis =>
      apply holdsMore_array
      intro item isItem
      rcases List.mem_cons.mp (List.perm_middle.mem_iff.mp isItem) with rfl | elsewhere
      · exact ⟨new, List.perm_middle.mem_iff.mpr List.mem_cons_self, inductionHypothesis⟩
      · have stays : item ∈ before ++ new :: after :=
          List.perm_middle.mem_iff.mpr (List.mem_cons_of_mem _ elsewhere)
        exact ⟨item, stays, .refl item⟩
  | @inMember before after name old new inside inductionHypothesis =>
      apply holdsMore_object
      intro sought found isFound
      rw [lookupEntry_append, lookupEntry_cons] at isFound ⊢
      cases earlier : lookupEntry sought before with
      | some value =>
          rw [earlier] at isFound
          exact ⟨found, isFound, .refl found⟩
      | none =>
          rw [earlier, Option.none_or] at isFound
          rw [Option.none_or]
          by_cases same : name = sought
          · rw [if_pos same] at isFound ⊢
            have isOld : old = found := Option.some.inj isFound
            exact ⟨new, rfl, isOld ▸ inductionHypothesis⟩
          · rw [if_neg same] at isFound ⊢
            exact ⟨found, isFound, .refl found⟩

/-! ### Losing asks less -/

/-- Whatever holds the first value holds the second one. -/
def AsksLess (old new : Json) : Prop :=
  ∀ given, covers given old = true → covers given new = true

theorem AsksLess.refl (value : Json) : AsksLess value value := fun _ held => held

theorem asksLess_array {items fewer : List Json}
    (each : ∀ other ∈ fewer, ∃ item ∈ items, AsksLess item other) :
    AsksLess (.array items) (.array fewer) := by
  intro given held
  cases given with
  | array given =>
      apply coversItems_iff.mpr
      intro other isOther
      obtain ⟨item, isItem, asksLess⟩ := each other isOther
      obtain ⟨found, isFound, covered⟩ := coversItems_iff.mp held item isItem
      exact ⟨found, isFound, asksLess found covered⟩
  | null | bool _ | number _ | string _ | object _ => cases held

theorem asksLess_object {members fewer : List (String × Json)}
    (each : ∀ other ∈ fewer, ∃ member ∈ members, member.1 = other.1 ∧
      AsksLess member.2 other.2) :
    AsksLess (.object members) (.object fewer) := by
  intro given held
  cases given with
  | object given =>
      apply coversMembers_iff.mpr
      intro other isOther
      obtain ⟨member, isMember, sameName, asksLess⟩ := each other isOther
      obtain ⟨found, isFound, covered⟩ := coversMembers_iff.mp held member isMember
      exact ⟨found, sameName ▸ isFound, asksLess found covered⟩
  | null | bool _ | number _ | string _ | array _ => cases held

theorem Loses.asksLess {old new : Json} (loses : Loses old new) : AsksLess old new := by
  cases loses with
  | member before after member =>
      apply asksLess_object
      intro other isOther
      have asked : other ∈ before ++ member :: after :=
        List.perm_middle.mem_iff.mpr (List.mem_cons_of_mem _ isOther)
      exact ⟨other, asked, rfl, .refl other.2⟩
  | item before after value =>
      apply asksLess_array
      intro other isOther
      have asked : other ∈ before ++ value :: after :=
        List.perm_middle.mem_iff.mpr (List.mem_cons_of_mem _ isOther)
      exact ⟨other, asked, .refl other⟩
  | @repeated before after value present =>
      apply asksLess_array
      intro other isOther
      rcases List.mem_cons.mp (List.perm_middle.mem_iff.mp isOther) with rfl | elsewhere
      · exact ⟨other, present, .refl other⟩
      · exact ⟨other, elsewhere, .refl other⟩
  | reorder rearranged =>
      apply asksLess_array
      intro other isOther
      exact ⟨other, rearranged.mem_iff.mpr isOther, .refl other⟩

theorem AtDepth.asksLess {old new : Json} (loses : AtDepth Loses old new) :
    AsksLess old new := by
  induction loses with
  | here edited => exact edited.asksLess
  | @inItem before after old new inside inductionHypothesis =>
      apply asksLess_array
      intro other isOther
      rcases List.mem_cons.mp (List.perm_middle.mem_iff.mp isOther) with rfl | elsewhere
      · exact ⟨old, List.perm_middle.mem_iff.mpr List.mem_cons_self, inductionHypothesis⟩
      · have asked : other ∈ before ++ old :: after :=
          List.perm_middle.mem_iff.mpr (List.mem_cons_of_mem _ elsewhere)
        exact ⟨other, asked, .refl other⟩
  | @inMember before after name old new inside inductionHypothesis =>
      apply asksLess_object
      intro other isOther
      rcases List.mem_cons.mp (List.perm_middle.mem_iff.mp isOther) with rfl | elsewhere
      · exact ⟨(name, old), List.perm_middle.mem_iff.mpr List.mem_cons_self, rfl,
          inductionHypothesis⟩
      · have asked : other ∈ before ++ (name, old) :: after :=
          List.perm_middle.mem_iff.mpr (List.mem_cons_of_mem _ elsewhere)
        exact ⟨other, asked, rfl, .refl other.2⟩

/-! ### Runs of edits -/

theorem covers_of_gained {given more wanted : Json}
    (gained : Relation.ReflTransGen (AtDepth Gains) given more)
    (held : covers given wanted = true) : covers more wanted = true := by
  induction gained with
  | refl => exact held
  | tail _ gains inductionHypothesis => exact gains.holdsMore wanted inductionHypothesis

theorem covers_of_lost {given wanted fewer : Json}
    (lost : Relation.ReflTransGen (AtDepth Loses) wanted fewer)
    (held : covers given wanted = true) : covers given fewer = true := by
  induction lost with
  | refl => exact held
  | tail _ loses inductionHypothesis => exact loses.asksLess given inductionHypothesis

/-- Containment is reflexive and monotone at every depth. A value without repeated names
holds itself, and so does every canonical value. When a value holds what is wanted, it still
does after any edits that add to it and any edits that take from what is wanted. -/
theorem covers_reflexive_monotone :
    (∀ value, NamesDistinct value → covers value value = true) ∧
      (∀ value : Json, covers value.canonical value.canonical = true) ∧
      ∀ given more wanted fewer,
        Relation.ReflTransGen (AtDepth Gains) given more →
          Relation.ReflTransGen (AtDepth Loses) wanted fewer →
            covers given wanted = true → covers more fewer = true := by
  refine ⟨fun value => covers_self, ?_, ?_⟩
  · intro value
    exact covers_self (namesDistinct_canonical value)
  · intro given more wanted fewer gained lost held
    exact covers_of_lost lost (covers_of_gained gained held)

namespace ContainmentSample

/-- A part of a message. -/
def divider : Json := .object [("type", .string "divider")]

/-- A message with a number and a part. -/
def given : Json := .object [("blocks", .array [.number (.integer 1), divider])]

/-- The same with its items in another order, and more about the part. -/
def more : Json :=
  .object [("blocks", .array [.object [("size", .null), ("type", .string "divider")],
    .number (.integer 1)])]

/-- A part and a number are asked for. -/
def wanted : Json := .object [("blocks", .array [divider, .number (.real .one)])]

/-- Only the number is asked for, but twice. -/
def fewer : Json :=
  .object [("blocks", .array [.number (.real .one), .number (.real .one)])]

theorem distinct : NamesDistinct given := by
  have part : NamesDistinct divider :=
    .object (by decide) (List.forall_mem_singleton.mpr (.string _))
  exact .object (by decide) (List.forall_mem_singleton.mpr
    (.array (List.forall_mem_cons.mpr ⟨.number _, List.forall_mem_singleton.mpr part⟩)))

theorem gained : Relation.ReflTransGen (AtDepth Gains) given more := by
  have reordered : AtDepth Gains given
      (.object [("blocks", .array [divider, .number (.integer 1)])]) :=
    .inMember [] [] "blocks" (.here (.reorder (.swap _ _ _)))
  have grown : AtDepth Gains (.object [("blocks", .array [divider, .number (.integer 1)])])
      more :=
    .inMember [] [] "blocks" (.inItem [] [.number (.integer 1)]
      (.here (.member [] [("type", .string "divider")] .null rfl)))
  exact (Relation.ReflTransGen.single reordered).tail grown

theorem lost : Relation.ReflTransGen (AtDepth Loses) wanted fewer := by
  have shortened : AtDepth Loses wanted (.object [("blocks", .array [.number (.real .one)])]) :=
    .inMember [] [] "blocks" (.here (.item [] [.number (.real .one)] divider))
  have doubled : AtDepth Loses (.object [("blocks", .array [.number (.real .one)])]) fewer :=
    .inMember [] [] "blocks" (.here (.repeated [] [.number (.real .one)] List.mem_cons_self))
  exact (Relation.ReflTransGen.single shortened).tail doubled

end ContainmentSample

open ContainmentSample in
theorem covers_reflexive_monotone_sample :
    covers given given = true ∧ covers given wanted = true ∧ covers more fewer = true := by
  obtain ⟨reflexive, _, monotone⟩ := covers_reflexive_monotone
  have held : covers given wanted = true := by decide +kernel
  exact ⟨reflexive given distinct, held, monotone given more wanted fewer gained lost held⟩

end Json

end CallPolicy
