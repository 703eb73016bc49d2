/-!
Contract: finite maps from names to values, with one representation per map.

Owns:
- entries in strictly rising order of their names, so equal maps are equal values;
- look-up, insertion and conversion from and to lists;
- the laws that determine a map by its look-ups.

Does not own: what the names are or how they are compared for meaning.
-/

namespace CallPolicy

universe u

/-- The value stored under a name in a list of entries; the first one counts. -/
def lookupEntry {β : Type u} (name : String) : List (String × β) → Option β
  | [] => none
  | entry :: rest => if entry.1 = name then some entry.2 else lookupEntry name rest

/-- Puts a value under a name into entries in rising order, in place of the value
that was there. -/
def insertEntry {β : Type u} (name : String) (value : β) :
    List (String × β) → List (String × β)
  | [] => [(name, value)]
  | entry :: rest =>
      if entry.1 < name then entry :: insertEntry name value rest
      else if entry.1 = name then (name, value) :: rest
      else (name, value) :: entry :: rest

/-- The order of entries in a map. -/
def Rising {β : Type u} (entries : List (String × β)) : Prop :=
  entries.Pairwise fun left right => left.1 < right.1

instance {β : Type u} (entries : List (String × β)) : Decidable (Rising entries) := by
  unfold Rising
  infer_instance

theorem mem_insertEntry {β : Type u} {name : String} {value : β}
    {entries : List (String × β)} {entry : String × β}
    (member : entry ∈ insertEntry name value entries) :
    entry = (name, value) ∨ entry ∈ entries := by
  induction entries with
  | nil => simpa [insertEntry] using member
  | cons head rest inductionHypothesis =>
      simp only [insertEntry] at member
      split at member
      · rcases List.mem_cons.mp member with isHead | inRest
        · exact Or.inr (by simp [isHead])
        · rcases inductionHypothesis inRest with isNew | old
          · exact Or.inl isNew
          · exact Or.inr (List.mem_cons_of_mem _ old)
      · split at member
        · rcases List.mem_cons.mp member with isNew | inRest
          · exact Or.inl isNew
          · exact Or.inr (List.mem_cons_of_mem _ inRest)
        · rcases List.mem_cons.mp member with isNew | old
          · exact Or.inl isNew
          · exact Or.inr old

theorem rising_insertEntry {β : Type u} (name : String) (value : β)
    {entries : List (String × β)} (rising : Rising entries) :
    Rising (insertEntry name value entries) := by
  induction entries with
  | nil => simp [insertEntry, Rising]
  | cons head rest inductionHypothesis =>
      obtain ⟨below, restRising⟩ := List.pairwise_cons.mp rising
      simp only [insertEntry]
      split
      · rename_i before
        refine List.pairwise_cons.mpr ⟨?_, inductionHypothesis restRising⟩
        intro entry member
        rcases mem_insertEntry member with isNew | old
        · simpa [isNew] using before
        · exact below entry old
      · split
        · rename_i same
          refine List.pairwise_cons.mpr ⟨?_, restRising⟩
          intro entry member
          simpa [same] using below entry member
        · rename_i notBefore different
          have after : name < head.1 := by
            rcases Decidable.em (name < head.1) with yes | no
            · exact yes
            · exact absurd
                (String.le_antisymm (String.not_lt.mp no) (String.not_lt.mp notBefore))
                different
          refine List.pairwise_cons.mpr ⟨?_, rising⟩
          intro entry member
          rcases List.mem_cons.mp member with isHead | inRest
          · simpa [isHead] using after
          · exact String.lt_trans after (below entry inRest)

/-- A finite map from names to values. -/
structure Keyed (β : Type u) where
  entries : List (String × β)
  rising : Rising entries
deriving DecidableEq

namespace Keyed

variable {β : Type u}

/-- The map without entries. -/
def empty : Keyed β := ⟨[], List.Pairwise.nil⟩

instance : Inhabited (Keyed β) := ⟨empty⟩

instance [Repr β] : Repr (Keyed β) where
  reprPrec map precedence := reprPrec map.entries precedence

/-- Whether the map has no entry. -/
def isEmpty (map : Keyed β) : Bool :=
  map.entries.isEmpty

/-- The value under a name. -/
def get? (map : Keyed β) (name : String) : Option β :=
  lookupEntry name map.entries

/-- Whether some value is stored under a name. -/
def contains (map : Keyed β) (name : String) : Bool :=
  (map.get? name).isSome

/-- Stores a value under a name, in place of the one that was there. -/
def insert (map : Keyed β) (name : String) (value : β) : Keyed β :=
  ⟨insertEntry name value map.entries, rising_insertEntry name value map.rising⟩

/-- The names in rising order. -/
def keys (map : Keyed β) : List String :=
  map.entries.map Prod.fst

/-- The values in the order of their names. -/
def values (map : Keyed β) : List β :=
  map.entries.map Prod.snd

/-- The map of a list of entries; of two entries with one name the later counts. -/
def ofList (entries : List (String × β)) : Keyed β :=
  entries.foldl (fun map entry => map.insert entry.1 entry.2) empty

/-- Changes the value under a name, or stores a first one. -/
def alter (map : Keyed β) (name : String) (change : Option β → β) : Keyed β :=
  map.insert name (change (map.get? name))

/-- Adds a value after those that are kept under a name. -/
def addValue (map : Keyed (List β)) (name : String) (value : β) : Keyed (List β) :=
  map.alter name fun values => values.getD [] ++ [value]

@[simp] theorem get?_empty (name : String) : (empty : Keyed β).get? name = none := rfl

end Keyed

theorem lookupEntry_insertEntry {β : Type u} (name other : String) (value : β)
    (entries : List (String × β)) (rising : Rising entries) :
    lookupEntry other (insertEntry name value entries) =
      if name = other then some value else lookupEntry other entries := by
  induction entries with
  | nil => simp [insertEntry, lookupEntry]
  | cons head rest inductionHypothesis =>
      obtain ⟨below, restRising⟩ := List.pairwise_cons.mp rising
      simp only [insertEntry]
      split
      · rename_i before
        simp only [lookupEntry]
        rw [inductionHypothesis restRising]
        by_cases headOther : head.1 = other
        · have different : name ≠ other := by
            intro same
            rw [same, ← headOther] at before
            exact String.lt_irrefl _ before
          simp [headOther, different]
        · simp [headOther]
      · split
        · rename_i same
          simp only [lookupEntry, same]
          by_cases isOther : name = other <;> simp [isOther]
        · simp only [lookupEntry]

theorem lookupEntry_eq_none_of_below {β : Type u} {name : String}
    {entries : List (String × β)} (below : ∀ entry ∈ entries, name < entry.1) :
    lookupEntry name entries = none := by
  induction entries with
  | nil => rfl
  | cons head rest inductionHypothesis =>
      have different : head.1 ≠ name := by
        intro same
        have impossible := below head (by simp)
        rw [same] at impossible
        exact String.lt_irrefl _ impossible
      simp only [lookupEntry, if_neg different]
      exact inductionHypothesis fun entry member => below entry (by simp [member])

/-- Entries in rising order are determined by their look-ups. -/
theorem entries_eq_of_lookup {β : Type u} {left right : List (String × β)}
    (leftRising : Rising left) (rightRising : Rising right)
    (same : ∀ name, lookupEntry name left = lookupEntry name right) :
    left = right := by
  induction left generalizing right with
  | nil =>
      cases right with
      | nil => rfl
      | cons head rest =>
          have impossible := same head.1
          simp [lookupEntry] at impossible
  | cons head rest inductionHypothesis =>
      obtain ⟨below, restRising⟩ := List.pairwise_cons.mp leftRising
      cases right with
      | nil =>
          have impossible := same head.1
          simp [lookupEntry] at impossible
      | cons other others =>
          obtain ⟨otherBelow, othersRising⟩ := List.pairwise_cons.mp rightRising
          have sameName : head.1 = other.1 := by
            rcases Decidable.em (head.1 < other.1) with before | notBefore
            · have absent : lookupEntry head.1 (other :: others) = none :=
                lookupEntry_eq_none_of_below (by
                  intro entry member
                  rcases List.mem_cons.mp member with isOther | inOthers
                  · simpa [isOther] using before
                  · exact String.lt_trans before (otherBelow entry inOthers))
              have found := same head.1
              rw [absent] at found
              simp [lookupEntry] at found
            · rcases Decidable.em (other.1 < head.1) with after | notAfter
              · have absent : lookupEntry other.1 (head :: rest) = none :=
                  lookupEntry_eq_none_of_below (by
                    intro entry member
                    rcases List.mem_cons.mp member with isHead | inRest
                    · simpa [isHead] using after
                    · exact String.lt_trans after (below entry inRest))
                have found := same other.1
                rw [absent] at found
                simp [lookupEntry] at found
              · exact String.le_antisymm (String.not_lt.mp notAfter)
                  (String.not_lt.mp notBefore)
          have sameValue : head.2 = other.2 := by
            have found := same head.1
            simpa [lookupEntry, sameName] using found
          have sameHead : head = other := Prod.ext sameName sameValue
          subst sameHead
          congr 1
          apply inductionHypothesis restRising othersRising
          intro name
          by_cases isHead : head.1 = name
          · have restNone : lookupEntry name rest = none :=
              lookupEntry_eq_none_of_below fun entry member => by
                simpa [← isHead] using below entry member
            have othersNone : lookupEntry name others = none :=
              lookupEntry_eq_none_of_below fun entry member => by
                simpa [← isHead] using otherBelow entry member
            rw [restNone, othersNone]
          · have found := same name
            simpa [lookupEntry, isHead] using found

namespace Keyed

variable {β : Type u}

/-- What an insertion does to every look-up. -/
theorem get?_insert (map : Keyed β) (name other : String) (value : β) :
    (map.insert name value).get? other =
      if name = other then some value else map.get? other :=
  lookupEntry_insertEntry name other value map.entries map.rising

/-- Maps with the same look-ups are equal. -/
theorem eq_of_get? {left right : Keyed β}
    (same : ∀ name, left.get? name = right.get? name) : left = right := by
  obtain ⟨leftEntries, leftRising⟩ := left
  obtain ⟨rightEntries, rightRising⟩ := right
  congr 1
  exact entries_eq_of_lookup leftRising rightRising same

end Keyed

end CallPolicy
