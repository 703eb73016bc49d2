import CallPolicy.Proofs.Faults
import CallPolicy.Proofs.Patterns
import CallPolicy.Proofs.Ready

/-!
Contract: clean texts stand for resolved segments one to one.

Owns:
- the segments of joined paths, told by walking on from those of the first;
- the segments and methods under which requests will meet declared rules;
- that repetitions, which are told by clean texts, are exactly the rules that will be met
  with the same segments and the same method.

Does not own: what else can be wrong with rules.
-/

namespace CallPolicy

/-! ### Walking on -/

namespace Path

/-- Walks one raw segment further from resolved segments: nowhere, back, or to a name. -/
def walk (resolved : List String) (segment : String) : List String :=
  if segment = "" ∨ segment = "." then resolved
  else if segment = ".." then resolved.dropLast
  else resolved ++ [segment]

theorem reverse_push (kept : List String) (segment : String) :
    (push kept segment).reverse = walk kept.reverse segment := by
  unfold push walk
  split
  · rfl
  · split
    · rw [List.dropLast_reverse]
    · rw [List.reverse_cons]

theorem reverse_foldl_push (raw kept : List String) :
    (raw.foldl push kept).reverse = raw.foldl walk kept.reverse := by
  induction raw generalizing kept with
  | nil => rfl
  | cons segment rest inductionHypothesis =>
      rw [List.foldl_cons, List.foldl_cons, inductionHypothesis, reverse_push]

/-- Resolving is walking all the way from the root. -/
theorem resolve_eq_foldl_walk (raw : List String) : resolve raw = raw.foldl walk [] :=
  reverse_foldl_push raw []

/-- The segments of a path that goes on are those of its beginning, walked on. -/
theorem clean_joined_eq_foldl_walk (left right : String) :
    clean (left ++ "/" ++ right) = (rawSegments right).foldl walk (clean left) := by
  rw [clean, rawSegments_joined, resolve_eq_foldl_walk, List.foldl_append,
    ← resolve_eq_foldl_walk, ← clean]

end Path

/-! ### Declared rules -/

namespace Rule

/-- The segments of a declared rule, as requests will meet them, with each of its methods, as
requests will ask for it. -/
def calls (rule : Rule) : List (List String × String) :=
  rule.methods.entries.map fun entry => (rule.prepare.segments, Text.Ascii.upper entry.1)

/-- A method of a rule at some place repeats a call: an earlier rule, or an earlier method of
the same rule, will be met with the same segments and the same method. -/
inductive RepeatsCall (rules : List Rule) : Nat → String → String → Prop
  | intro {before after : List Rule} {rule : Rule} {earlier later : List (String × Constraint)}
      {entry : String × Constraint} (cut : rules = before ++ rule :: after)
      (methods : rule.methods.entries = earlier ++ entry :: later)
      (repeated : (rule.prepare.segments, Text.Ascii.upper entry.1) ∈
        before.flatMap calls ++
          earlier.map fun other => (rule.prepare.segments, Text.Ascii.upper other.1)) :
      RepeatsCall rules before.length (Text.Ascii.upper entry.1) (Path.cleanText rule.path)

theorem pairs_eq_map_calls (rule : Rule) : rule.pairs = rule.calls.map slotText := by
  rw [pairs, calls, List.map_map]
  rfl

theorem flatMap_pairs_eq_map_calls (rules : List Rule) :
    rules.flatMap pairs = (rules.flatMap calls).map slotText := by
  rw [List.map_flatMap]
  exact congrArg (List.flatMap · rules) (funext pairs_eq_map_calls)

/-- Segments that name something are told apart by the text that joins them. -/
theorem eq_of_slotText_eq {left right : List String × String}
    (leftNamed : ∀ segment ∈ left.1, Path.Named segment)
    (rightNamed : ∀ segment ∈ right.1, Path.Named segment) (same : slotText left = slotText right) :
    left = right := by
  have segments : left.1 = right.1 := by
    rw [← Path.clean_joined leftNamed, ← Path.clean_joined rightNamed]
    exact congrArg Path.clean (Prod.mk.inj same).1
  exact Prod.ext segments (Prod.mk.inj same).2

theorem named_of_mem_calls {rules : List Rule} {call : List String × String}
    (member : call ∈ rules.flatMap calls) : ∀ segment ∈ call.1, Path.Named segment := by
  obtain ⟨rule, _, isCall⟩ := List.mem_flatMap.mp member
  obtain ⟨entry, _, rfl⟩ := List.mem_map.mp isCall
  exact fun segment isSegment => Path.named_of_mem_clean isSegment

/-- Pairs of text and method repeat exactly where calls do. -/
theorem nodup_pairs_iff_calls (rules : List Rule) :
    (rules.flatMap pairs).Nodup ↔ (rules.flatMap calls).Nodup := by
  rw [flatMap_pairs_eq_map_calls]
  refine ⟨fun distinct => distinct.of_map, fun distinct => distinct.map_on ?_⟩
  intro left isLeft right isRight
  exact eq_of_slotText_eq (named_of_mem_calls isLeft) (named_of_mem_calls isRight)

end Rule

namespace Validation

/-- The rules of a caller pass when each is sound and no two calls of them are the same. -/
theorem rules_eq_ok_iff_calls {integration id : String} {declared : List Rule} :
    rules integration id true declared = .ok () ↔
      (∀ rule ∈ declared, rule.Sound) ∧ (declared.flatMap Rule.calls).Nodup := by
  rw [rules_eq_ok_iff, Rule.nodup_pairs_iff_calls]
  simp

/-- Sound rules are only refused for a call that is repeated, and the refusal says which. -/
theorem repeatsCall_of_rules {integration id : String} {declared : List Rule}
    (sound : ∀ rule ∈ declared, rule.Sound) {error : PolicyError}
    (refused : rules integration id true declared = .error error) :
    ∃ place method path, error = .duplicateRule integration (callerKey id) place method path ∧
      Rule.RepeatsCall declared place method path := by
  have isFault : error ∈ rulesFaults integration id true declared :=
    List.mem_of_mem_head? ((rules_reports integration id true declared).eq_error_iff.mp refused)
  obtain ⟨before, rule, after, rfl, ofRule⟩ := Checks.mem_inOrder.mp isFault
  have ruleSound := sound rule (List.mem_append_right _ List.mem_cons_self)
  rw [List.nil_append, ruleFaults, Checks.faultIf, Checks.faultIf,
    if_neg (by simp [ruleSound.path]), if_neg (by simp [ruleSound.methods]), List.nil_append,
    List.nil_append] at ofRule
  obtain ⟨earlier, entry, later, methods, ofMethod⟩ := Checks.mem_inOrder.mp ofRule
  have isEntry : entry ∈ rule.methods.entries := by
    rw [methods]
    exact List.mem_append_right _ List.mem_cons_self
  rw [methodFaults_of_sound (ruleSound.each entry isEntry), Checks.mem_faultIf] at ofMethod
  obtain ⟨repeated, rfl⟩ := ofMethod
  refine ⟨_, _, _, rfl, .intro rfl methods ?_⟩
  have asText : pairsOn (Path.cleanText rule.path) earlier =
      (earlier.map fun other => (rule.prepare.segments, Text.Ascii.upper other.1)).map
        Rule.slotText := by
    rw [List.map_map]
    rfl
  rw [List.nil_append, Rule.flatMap_pairs_eq_map_calls, asText, ← List.map_append] at repeated
  obtain ⟨call, isCall, same⟩ := List.mem_map.mp repeated
  have named : ∀ segment ∈ call.1, Path.Named segment := by
    rcases List.mem_append.mp isCall with isBefore | isEarlier
    · exact Rule.named_of_mem_calls isBefore
    · obtain ⟨other, _, rfl⟩ := List.mem_map.mp isEarlier
      exact fun segment => Path.named_of_mem_clean
  have sameCall : call = (rule.prepare.segments, Text.Ascii.upper entry.1) :=
    Rule.eq_of_slotText_eq named (fun segment => Path.named_of_mem_clean) same
  exact sameCall ▸ isCall

end Validation

/-- Clean texts are canonical. The clean text of a path resolves as the path does and is its own
clean text, and two paths have one clean text exactly when they have the same segments. So the
check for repetitions, which compares clean texts, refuses exactly the sound rules of which two
will be met with the same segments and the same method, and it names such a rule. The segments
of a path that goes on are found by walking on from those of its beginning. -/
theorem Path.cleanText_canonical (left right : String) :
    clean (cleanText left) = clean left ∧
      cleanText (cleanText left) = cleanText left ∧
      (cleanText left = cleanText right ↔ clean left = clean right) ∧
      clean (left ++ "/" ++ right) = (rawSegments right).foldl walk (clean left) ∧
      (∀ integration id declared, Validation.rules integration id true declared = .ok () ↔
        (∀ rule ∈ declared, rule.Sound) ∧ (declared.flatMap Rule.calls).Nodup) ∧
      ∀ integration id declared, (∀ rule ∈ declared, rule.Sound) →
        ∀ error, Validation.rules integration id true declared = .error error →
          ∃ place method path,
            error = .duplicateRule integration (callerKey id) place method path ∧
              Rule.RepeatsCall declared place method path :=
  ⟨clean_cleanText left, cleanText_eq_iff.mpr (clean_cleanText left), cleanText_eq_iff,
    clean_joined_eq_foldl_walk left right, fun _ _ _ => Validation.rules_eq_ok_iff_calls,
    fun _ _ _ sound _ => Validation.repeatsCall_of_rules sound⟩

namespace CleanTextSample

/-- Two spellings of one path with two spellings of one method. -/
def declared : List Rule :=
  [(Rule.onPath "a//b/").withMethod "get" .unrestricted,
    (Rule.onPath "/a/c/../b").withMethod "GET" .unrestricted]

end CleanTextSample

open CleanTextSample in
theorem Path.cleanText_canonical_sample :
    cleanText "a//b/" = cleanText "/a/c/../b" ∧
      Rule.RepeatsCall declared 1 "GET" "/a/b" := by
  obtain ⟨_, _, sameText, _, _, refusal⟩ := cleanText_canonical "a//b/" "/a/c/../b"
  have checked : Validation.rules "github" "ci" false declared = .ok () := by decide +kernel
  have refused : Validation.rules "github" "ci" true declared =
      .error (.duplicateRule "github" "ci" 1 "GET" "/a/b") := by decide +kernel
  obtain ⟨_, _, _, same, repeats⟩ :=
    refusal _ _ _ (Validation.rules_eq_ok_iff.mp checked).1 _ refused
  cases same
  exact ⟨sameText.mpr (by decide +kernel), repeats⟩

end CallPolicy
