import CallPolicy.Keyed
import Mathlib.Data.List.Nodup

/-!
Contract: look-ups in lists of entries and in the maps made from them.

Owns:
- look-ups in joined lists and in lists with distinct names;
- what a map made from a list finds under a name, where names repeat and where
  they do not.

Does not own: what the entries mean.
-/

namespace CallPolicy

universe u v

variable {β : Type u}

/-! ### Lists of entries -/

@[simp] theorem lookupEntry_nil (name : String) :
    lookupEntry name ([] : List (String × β)) = none := rfl

theorem lookupEntry_cons (name : String) (entry : String × β)
    (rest : List (String × β)) :
    lookupEntry name (entry :: rest) =
      if entry.1 = name then some entry.2 else lookupEntry name rest := rfl

theorem lookupEntry_append (name : String) (left right : List (String × β)) :
    lookupEntry name (left ++ right) =
      (lookupEntry name left).or (lookupEntry name right) := by
  induction left with
  | nil => simp
  | cons entry rest inductionHypothesis =>
      simp only [List.cons_append, lookupEntry_cons]
      split
      · rfl
      · exact inductionHypothesis

theorem mem_of_lookupEntry {name : String} {value : β} {entries : List (String × β)}
    (found : lookupEntry name entries = some value) : (name, value) ∈ entries := by
  induction entries with
  | nil => simp at found
  | cons entry rest inductionHypothesis =>
      rw [lookupEntry_cons] at found
      split at found
      · rename_i same
        have isValue : entry.2 = value := Option.some.inj found
        rw [← same, ← isValue]
        exact List.mem_cons_self
      · exact List.mem_cons_of_mem _ (inductionHypothesis found)

theorem isSome_lookupEntry_iff {name : String} {entries : List (String × β)} :
    (lookupEntry name entries).isSome = true ↔ name ∈ entries.map Prod.fst := by
  induction entries with
  | nil => simp
  | cons entry rest inductionHypothesis =>
      rw [lookupEntry_cons, List.map_cons, List.mem_cons, ← inductionHypothesis]
      by_cases same : entry.1 = name
      · simp [same]
      · simp [same, Ne.symm same]

/-- Where no name repeats, a look-up finds exactly the entry of that name. -/
theorem lookupEntry_eq_some_iff {name : String} {value : β}
    {entries : List (String × β)} (distinct : (entries.map Prod.fst).Nodup) :
    lookupEntry name entries = some value ↔ (name, value) ∈ entries := by
  refine ⟨mem_of_lookupEntry, ?_⟩
  induction entries with
  | nil => simp
  | cons entry rest inductionHypothesis =>
      intro member
      obtain ⟨unused, restDistinct⟩ := List.nodup_cons.mp distinct
      rw [lookupEntry_cons]
      rcases List.mem_cons.mp member with isHead | inRest
      · simp [← isHead]
      · have different : entry.1 ≠ name := fun same =>
          unused (same ▸ List.mem_map_of_mem (f := Prod.fst) inRest)
        rw [if_neg different]
        exact inductionHypothesis restDistinct inRest

/-- Lists with the same entries and distinct names answer every look-up alike. -/
theorem lookupEntry_eq_of_mem_iff {left right : List (String × β)}
    (leftDistinct : (left.map Prod.fst).Nodup) (rightDistinct : (right.map Prod.fst).Nodup)
    (same : ∀ entry, entry ∈ left ↔ entry ∈ right) (name : String) :
    lookupEntry name left = lookupEntry name right := by
  apply Option.ext
  intro value
  rw [lookupEntry_eq_some_iff leftDistinct, lookupEntry_eq_some_iff rightDistinct]
  exact same (name, value)

theorem lookupEntry_reverse {entries : List (String × β)}
    (distinct : (entries.map Prod.fst).Nodup) (name : String) :
    lookupEntry name entries.reverse = lookupEntry name entries := by
  refine lookupEntry_eq_of_mem_iff ?_ distinct (fun entry => List.mem_reverse) name
  rw [List.map_reverse]
  exact List.nodup_reverse.2 distinct

/-- A look-up among entries made from items finds what the first item of that name
gives. -/
theorem lookupEntry_map {α : Type v} (nameOf : α → String) (valueOf : α → β)
    (name : String) (items : List α) :
    lookupEntry name (items.map fun item => (nameOf item, valueOf item)) =
      (items.find? fun item => nameOf item = name).map valueOf := by
  induction items with
  | nil => rfl
  | cons item rest inductionHypothesis =>
      rw [List.map_cons, lookupEntry_cons, inductionHypothesis]
      by_cases same : nameOf item = name <;> simp [same]

/-- Where the names of items are distinct, the first item of a name is the only one. -/
theorem find?_name_of_mem {α : Type v} {nameOf : α → String} {items : List α}
    (distinct : (items.map nameOf).Nodup) {item : α} (member : item ∈ items) :
    items.find? (fun other => nameOf other = nameOf item) = some item := by
  cases found : items.find? fun other => nameOf other = nameOf item with
  | none => exact absurd (List.find?_eq_none.mp found item member) (by simp)
  | some other =>
      have sameName : nameOf other = nameOf item := by
        simpa using List.find?_some found
      exact congrArg some (List.inj_on_of_nodup_map distinct
        (List.mem_of_find?_eq_some found) member sameName)

/-- Where the names of items are distinct, what is read off the item of a name is what is
read off any item of that name. -/
theorem mem_getD_find?_name {α : Type v} {nameOf : α → String} {items : List α}
    (distinct : (items.map nameOf).Nodup) {listOf : α → List β} {name : String} {value : β} :
    value ∈ ((items.find? fun item => nameOf item = name).map listOf).getD [] ↔
      ∃ item ∈ items, nameOf item = name ∧ value ∈ listOf item := by
  constructor
  · intro held
    cases found : items.find? fun item => nameOf item = name with
    | none => simp [found] at held
    | some item =>
        have isNamed : nameOf item = name := by simpa using List.find?_some found
        exact ⟨item, List.mem_of_find?_eq_some found, isNamed, by simpa [found] using held⟩
  · rintro ⟨item, member, rfl, held⟩
    rw [find?_name_of_mem distinct member]
    exact held

/-! ### Maps -/

namespace Keyed

/-- Storing entries one after another: the last one of a name counts, and the map
at the start counts for the names without any. -/
theorem get?_foldl_insert (entries : List (String × β)) (start : Keyed β) (name : String) :
    (entries.foldl (fun map entry => map.insert entry.1 entry.2) start).get? name =
      (lookupEntry name entries.reverse).or (start.get? name) := by
  induction entries generalizing start with
  | nil => simp
  | cons entry rest inductionHypothesis =>
      rw [List.foldl_cons, inductionHypothesis, get?_insert, List.reverse_cons,
        lookupEntry_append, lookupEntry_cons, lookupEntry_nil]
      cases lookupEntry name rest.reverse with
      | some value => rfl
      | none => by_cases same : entry.1 = name <;> simp [same]

theorem get?_ofList (entries : List (String × β)) (name : String) :
    (ofList entries).get? name = lookupEntry name entries.reverse := by
  rw [ofList, get?_foldl_insert, get?_empty, Option.or_none]

theorem get?_ofList_of_nodup {entries : List (String × β)}
    (distinct : (entries.map Prod.fst).Nodup) (name : String) :
    (ofList entries).get? name = lookupEntry name entries := by
  rw [get?_ofList, lookupEntry_reverse distinct]

/-- A map made from items with distinct names finds what the item of a name gives. -/
theorem get?_ofList_map {α : Type v} {nameOf : α → String} {items : List α}
    (distinct : (items.map nameOf).Nodup) (valueOf : α → β) (name : String) :
    (ofList (items.map fun item => (nameOf item, valueOf item))).get? name =
      (items.find? fun item => nameOf item = name).map valueOf := by
  have names : (items.map fun item => (nameOf item, valueOf item)).map Prod.fst =
      items.map nameOf := by
    rw [List.map_map]
    rfl
  rw [get?_ofList_of_nodup (names ▸ distinct), lookupEntry_map nameOf valueOf]

theorem keys_nodup (map : Keyed β) : (map.entries.map Prod.fst).Nodup := by
  refine List.pairwise_map.mpr (map.rising.imp fun below same => ?_)
  rw [same] at below
  exact String.lt_irrefl _ below

theorem get?_eq_some_iff {map : Keyed β} {name : String} {value : β} :
    map.get? name = some value ↔ (name, value) ∈ map.entries :=
  lookupEntry_eq_some_iff map.keys_nodup

/-- A map made from entries holds nothing else. -/
theorem mem_of_mem_ofList {entries : List (String × β)} {entry : String × β}
    (member : entry ∈ (ofList entries).entries) : entry ∈ entries := by
  have found := get?_eq_some_iff.mpr member
  rw [get?_ofList] at found
  exact List.mem_reverse.mp (mem_of_lookupEntry found)

/-- What holds of a new entry and of all old ones holds of all entries after the new one
is stored. -/
theorem forall_mem_insert {Holds : String × β → Prop} {map : Keyed β} {name : String} {value : β}
    (new : Holds (name, value)) (old : ∀ entry ∈ map.entries, Holds entry) :
    ∀ entry ∈ (map.insert name value).entries, Holds entry := by
  intro entry member
  rcases mem_insertEntry member with rfl | isOld
  · exact new
  · exact old entry isOld

/-- A map made from entries with distinct names holds exactly these entries. -/
theorem ofList_perm {entries : List (String × β)} (distinct : (entries.map Prod.fst).Nodup) :
    (ofList entries).entries.Perm entries := by
  refine (List.perm_ext_iff_of_nodup (keys_nodup _).of_map distinct.of_map).mpr ?_
  rintro ⟨name, value⟩
  rw [← get?_eq_some_iff, get?_ofList_of_nodup distinct, lookupEntry_eq_some_iff distinct]

/-- A map is made again from its own entries. -/
theorem ofList_entries (map : Keyed β) : ofList map.entries = map :=
  eq_of_get? fun name => get?_ofList_of_nodup map.keys_nodup name

/-- Entries with distinct names make the same map in whatever order they stand. -/
theorem ofList_eq_of_perm {left right : List (String × β)} (perm : left.Perm right)
    (distinct : (left.map Prod.fst).Nodup) : ofList left = ofList right := by
  have rightDistinct := (perm.map Prod.fst).nodup_iff.mp distinct
  refine eq_of_get? fun name => ?_
  rw [get?_ofList_of_nodup distinct, get?_ofList_of_nodup rightDistinct]
  exact lookupEntry_eq_of_mem_iff distinct rightDistinct (fun _ => perm.mem_iff) name

/-- Storing what is stored changes nothing. -/
theorem insert_of_get? {map : Keyed β} {name : String} {value : β}
    (found : map.get? name = some value) : map.insert name value = map := by
  refine eq_of_get? fun other => ?_
  rw [get?_insert]
  split
  · rename_i same
    rw [← same, found]
  · rfl

end Keyed

end CallPolicy
