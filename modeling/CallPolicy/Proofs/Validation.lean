import CallPolicy.Proofs.Checks
import CallPolicy.Validation
import Mathlib.Data.List.Nodup

/-!
Contract: exactly which declarations pass the checks.

Owns:
- what a sound rule is, and which pairs of path and method a rule declares;
- one equivalence for each check: integration names, caller ids, the methods of a
  rule and the rules of a caller.

Does not own: which error a declaration that does not pass is answered with.
-/

namespace CallPolicy

/-- What the checks ask of one method of a rule: it is a token in upper case, and its
constraint names only headers that can exist. -/
def MethodSound (entry : String × Constraint) : Prop :=
  Text.Ascii.isToken (Text.Ascii.upper entry.1) = true ∧
    ∀ header ∈ entry.2.headers.keys, (headerName? (Text.Utf8.bytes header)).isSome = true

/-- What the checks ask of one rule, apart from repetitions. -/
structure Rule.Sound (rule : Rule) : Prop where
  path : Params.isBlankText rule.path = false
  methods : rule.methods.isEmpty = false
  each : ∀ entry ∈ rule.methods.entries, MethodSound entry

/-- The pairs of path and method that a rule declares, in the spelling by which
repetitions are told. -/
def Rule.pairs (rule : Rule) : List (String × String) :=
  rule.methods.entries.map fun entry =>
    (Path.cleanText rule.path, Text.Ascii.upper entry.1)

/-- No two methods of the rule are equal up to case. -/
def Rule.MethodsDistinct (rule : Rule) : Prop :=
  (rule.methods.entries.map fun entry => Text.Ascii.upper entry.1).Nodup

instance (rule : Rule) : Decidable rule.MethodsDistinct := by
  unfold Rule.MethodsDistinct
  infer_instance

theorem Rule.methodsDistinct_of_pairs {rule : Rule} (distinct : rule.pairs.Nodup) :
    rule.MethodsDistinct := by
  have asPairs : rule.pairs =
      (rule.methods.entries.map fun entry => Text.Ascii.upper entry.1).map
        (Prod.mk (Path.cleanText rule.path)) := by
    simp [Rule.pairs]
  rw [asPairs] at distinct
  exact distinct.of_map _

/-- Where no pair repeats among rules, each single rule has distinct methods. -/
theorem Rule.methodsDistinct_of_mem {rules : List Rule}
    (distinct : (rules.flatMap Rule.pairs).Nodup) {rule : Rule} (member : rule ∈ rules) :
    rule.MethodsDistinct :=
  methodsDistinct_of_pairs ((List.nodup_flatMap.mp distinct).1 rule member)

namespace Validation

/-! ### Repetitions -/

/-- Where repetitions are refused, the pairs neither repeat each other nor one that
was seen. -/
def Fresh (refuseRepeats : Bool) (seen pairs : List (String × String)) : Prop :=
  refuseRepeats = true → pairs.Nodup ∧ ∀ pair ∈ pairs, pair ∉ seen

theorem fresh_nil (refuseRepeats : Bool) (seen : List (String × String)) :
    Fresh refuseRepeats seen [] := by
  simp [Fresh]

theorem fresh_cons (refuseRepeats : Bool) (seen : List (String × String))
    (pair : String × String) (rest : List (String × String)) :
    Fresh refuseRepeats seen (pair :: rest) ↔
      ¬ (refuseRepeats = true ∧ pair ∈ seen) ∧ Fresh refuseRepeats (pair :: seen) rest := by
  cases refuseRepeats with
  | false => simp [Fresh]
  | true =>
      simp only [Fresh, List.nodup_cons, List.forall_mem_cons, true_and, forall_const]
      constructor
      · intro checked
        obtain ⟨⟨unused, distinct⟩, unseen, others⟩ := checked
        refine ⟨unseen, distinct, fun other member => ?_⟩
        rw [List.mem_cons, not_or]
        exact ⟨fun same => unused (same ▸ member), others other member⟩
      · intro accepted
        obtain ⟨unseen, distinct, others⟩ := accepted
        refine ⟨⟨fun member => ?_, distinct⟩, unseen, fun other member => ?_⟩
        · exact others pair member List.mem_cons_self
        · exact fun seenBefore => others other member (List.mem_cons_of_mem _ seenBefore)

theorem fresh_append (refuseRepeats : Bool) (seen left right : List (String × String)) :
    Fresh refuseRepeats seen (left ++ right) ↔
      Fresh refuseRepeats seen left ∧ Fresh refuseRepeats (left.reverse ++ seen) right := by
  induction left generalizing seen with
  | nil => simp [fresh_nil]
  | cons pair rest inductionHypothesis =>
      rw [List.cons_append, fresh_cons, inductionHypothesis, fresh_cons, List.reverse_cons,
        List.append_assoc, List.singleton_append, and_assoc]

/-! ### Methods and rules -/

theorem checkMethods_eq_ok_iff {place : Place} {path : String} {refuseRepeats : Bool}
    {seen next : List (String × String)} {methods : List (String × Constraint)} :
    checkMethods place path refuseRepeats seen methods = .ok next ↔
      (∀ entry ∈ methods, MethodSound entry) ∧
        Fresh refuseRepeats seen
          (methods.map fun entry => (path, Text.Ascii.upper entry.1)) ∧
        next = (methods.map fun entry => (path, Text.Ascii.upper entry.1)).reverse ++ seen := by
  induction methods generalizing seen with
  | nil => simp [checkMethods, fresh_nil, eq_comm]
  | cons entry rest inductionHypothesis =>
      obtain ⟨name, constraint⟩ := entry
      simp only [checkMethods, List.forall_mem_cons, List.map_cons, fresh_cons,
        List.reverse_cons, List.append_assoc, List.singleton_append]
      by_cases token : Text.Ascii.isToken (Text.Ascii.upper name) = true
      · rw [if_neg (by simp [token])]
        cases bad : constraint.headers.keys.find? fun header =>
            (headerName? (Text.Utf8.bytes header)).isNone with
        | some header =>
            have impossible : ¬ MethodSound (name, constraint) := by
              intro checked
              obtain ⟨_, headers⟩ := checked
              have isNone := List.find?_some bad
              have isSome := headers header (List.mem_of_find?_eq_some bad)
              simp_all
            simp [impossible]
        | none =>
            have sound : MethodSound (name, constraint) := by
              refine ⟨token, fun header member => ?_⟩
              have notNone := List.find?_eq_none.mp bad header member
              simpa [Option.isSome_iff_ne_none] using notNone
            by_cases repeated : refuseRepeats = true ∧ (path, Text.Ascii.upper name) ∈ seen
            · simp [repeated]
            · have notRepeated :
                  ¬ (refuseRepeats && seen.contains (path, Text.Ascii.upper name)) = true := by
                simpa using repeated
              simp only [if_neg notRepeated, inductionHypothesis, sound, repeated,
                not_false_eq_true, true_and]
      · have impossible : ¬ MethodSound (name, constraint) := fun sound => token sound.1
        simp [token, impossible]

theorem checkRules_eq_ok_iff {integration caller : String} {refuseRepeats : Bool}
    {index : Nat} {seen : List (String × String)} {declared : List Rule} :
    checkRules integration caller refuseRepeats index seen declared = .ok () ↔
      (∀ rule ∈ declared, rule.Sound) ∧
        Fresh refuseRepeats seen (declared.flatMap Rule.pairs) := by
  induction declared generalizing index seen with
  | nil => simp [checkRules, fresh_nil]
  | cons rule rest inductionHypothesis =>
      simp only [checkRules, List.forall_mem_cons, List.flatMap_cons, fresh_append]
      by_cases blank : Params.isBlankText rule.path = true
      · have impossible : ¬ rule.Sound := fun sound => by simp [sound.path] at blank
        simp [blank, impossible]
      · by_cases empty : rule.methods.isEmpty = true
        · have impossible : ¬ rule.Sound := fun sound => by simp [sound.methods] at empty
          simp [blank, empty, impossible]
        · have sound : rule.Sound ↔ ∀ entry ∈ rule.methods.entries, MethodSound entry :=
            ⟨Rule.Sound.each, fun each => ⟨by simpa using blank, by simpa using empty, each⟩⟩
          rw [if_neg blank, if_neg empty, Checks.bind_eq_ok_iff, sound]
          simp only [checkMethods_eq_ok_iff, inductionHypothesis]
          constructor
          · intro checked
            obtain ⟨next, ⟨each, fresh, rfl⟩, others, restFresh⟩ := checked
            exact ⟨⟨each, others⟩, fresh, restFresh⟩
          · intro accepted
            obtain ⟨⟨each, others⟩, fresh, restFresh⟩ := accepted
            exact ⟨_, ⟨each, fresh, rfl⟩, others, restFresh⟩

/-- The rules of a caller pass when each is sound and, where repetitions are refused,
no pair of path and method is declared twice. -/
theorem rules_eq_ok_iff {integration id : String} {refuseRepeats : Bool}
    {declared : List Rule} :
    rules integration id refuseRepeats declared = .ok () ↔
      (∀ rule ∈ declared, rule.Sound) ∧
        (refuseRepeats = true → (declared.flatMap Rule.pairs).Nodup) := by
  rw [rules, checkRules_eq_ok_iff]
  simp [Fresh]

/-! ### Names -/

theorem integrationKeys_eq_ok_iff {index : Nat} {seen names keys : List String} :
    integrationKeys index seen names = .ok keys ↔
      keys = names.map integrationKey ∧ keys.Nodup ∧
        ∀ key ∈ keys, key ≠ "" ∧ key ∉ seen := by
  induction names generalizing index seen keys with
  | nil =>
      simp only [integrationKeys, List.map_nil, Except.ok.injEq]
      constructor
      · rintro rfl
        simp
      · intro accepted
        obtain ⟨rfl, _⟩ := accepted
        rfl
  | cons name rest inductionHypothesis =>
      simp only [integrationKeys, List.map_cons]
      by_cases empty : integrationKey name = ""
      · rw [if_pos (by simp [empty])]
        constructor
        · intro impossible
          cases impossible
        · intro accepted
          obtain ⟨rfl, _, each⟩ := accepted
          exact absurd empty (each _ List.mem_cons_self).1
      · by_cases repeated : integrationKey name ∈ seen
        · rw [if_neg (by simpa using empty), if_pos (by simpa using repeated)]
          constructor
          · intro impossible
            cases impossible
          · intro accepted
            obtain ⟨rfl, _, each⟩ := accepted
            exact absurd repeated (each _ List.mem_cons_self).2
        · rw [if_neg (by simpa using empty), if_neg (by simpa using repeated),
            Checks.map_eq_ok_iff]
          simp only [inductionHypothesis]
          constructor
          · intro checked
            obtain ⟨others, ⟨rfl, distinct, each⟩, rfl⟩ := checked
            refine ⟨rfl, List.nodup_cons.mpr ⟨?_, distinct⟩, ?_⟩
            · intro member
              exact (each _ member).2 List.mem_cons_self
            · intro key member
              rcases List.mem_cons.mp member with rfl | inRest
              · exact ⟨empty, repeated⟩
              · exact ⟨(each key inRest).1, fun seenBefore =>
                  (each key inRest).2 (List.mem_cons_of_mem _ seenBefore)⟩
          · intro accepted
            obtain ⟨rfl, distinct, each⟩ := accepted
            obtain ⟨unused, restDistinct⟩ := List.nodup_cons.mp distinct
            refine ⟨_, ⟨rfl, restDistinct, ?_⟩, rfl⟩
            intro key member
            refine ⟨(each key (List.mem_cons_of_mem _ member)).1, ?_⟩
            rw [List.mem_cons, not_or]
            exact ⟨fun same => unused (same ▸ member),
              (each key (List.mem_cons_of_mem _ member)).2⟩

theorem uniqueCallers_eq_ok_iff {integration : String} {seen ids : List String} :
    uniqueCallers integration seen ids = .ok () ↔
      (ids.map callerKey).Nodup ∧ ∀ key ∈ ids.map callerKey, key ∉ seen := by
  induction ids generalizing seen with
  | nil => simp [uniqueCallers]
  | cons id rest inductionHypothesis =>
      simp only [uniqueCallers, List.map_cons, List.nodup_cons, List.forall_mem_cons]
      by_cases repeated : callerKey id ∈ seen
      · simp [repeated]
      · rw [if_neg (by simpa using repeated), inductionHypothesis]
        constructor
        · intro checked
          obtain ⟨distinct, each⟩ := checked
          refine ⟨⟨?_, distinct⟩, repeated, ?_⟩
          · intro member
            exact each _ member List.mem_cons_self
          · intro key member seenBefore
            exact each key member (List.mem_cons_of_mem _ seenBefore)
        · intro accepted
          obtain ⟨⟨unused, distinct⟩, _, each⟩ := accepted
          refine ⟨distinct, fun key member => ?_⟩
          rw [List.mem_cons, not_or]
          exact ⟨fun same => unused (same ▸ member), each key member⟩

end Validation

end CallPolicy
