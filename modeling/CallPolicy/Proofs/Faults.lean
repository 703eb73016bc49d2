import CallPolicy.Proofs.Validation

/-!
Contract: everything that is wrong with declared names, callers and rules, in a fixed order.

Owns:
- the faults of the names of a batch, of the callers of an integration, and of the rules of
  a caller, each listed in full;
- that each check ends with the first of the faults that it looks for.

Does not own: the faults of capabilities, and the order in which callers and entries are
checked.

## Listing faults

The lists are told from the declarations alone. They name every fault, those behind the
first one included, and remember nothing between items: what an item repeats is read off
the items before it. The checks carry what they have seen and stop at the first fault.
-/

namespace CallPolicy.Validation

open Checks

/-! ### Names -/

/-- The faults of one name, after the names before it: its key is empty, or it is the key of
an earlier one. -/
def nameFaults (earlier : List String) (name : String) : List PolicyError :=
  faultIf (integrationKey name = "") (.missingIntegration earlier.length) ++
    faultIf (integrationKey name ∈ earlier.map integrationKey)
      (.duplicateIntegration (integrationKey name))

/-- The faults of one caller id, after those before it: it has the key of an earlier one. -/
def callerFaults (integration : String) (earlier : List String) (id : String) :
    List PolicyError :=
  faultIf (callerKey id ∈ earlier.map callerKey) (.duplicateCaller integration (callerKey id))

theorem integrationKeys_reports (seen earlier names : List String)
    (same : ∀ key, key ∈ seen ↔ key ∈ earlier.map integrationKey) :
    Reports (integrationKeys earlier.length seen names) (inOrder nameFaults earlier names) := by
  induction names generalizing seen earlier with
  | nil => exact reports_ok _
  | cons name rest inductionHypothesis =>
      have next := inductionHypothesis (integrationKey name :: seen) (earlier ++ [name])
        (by simp [same, or_comm])
      rw [List.length_append, List.length_singleton] at next
      rw [integrationKeys, inOrder, nameFaults, List.append_assoc]
      refine Reports.orElse (Reports.orElse (next.map _) ?_ _) String.isEmpty_iff _
      rw [List.contains_iff_mem, same]

theorem uniqueCallers_reports {integration : String} (seen earlier ids : List String)
    (same : ∀ key, key ∈ seen ↔ key ∈ earlier.map callerKey) :
    Reports (uniqueCallers integration seen ids)
      (inOrder (callerFaults integration) earlier ids) := by
  induction ids generalizing seen earlier with
  | nil => exact reports_ok _
  | cons id rest inductionHypothesis =>
      have next := inductionHypothesis (callerKey id :: seen) (earlier ++ [id])
        (by simp [same, or_comm])
      rw [uniqueCallers, inOrder, callerFaults]
      refine Reports.orElse next ?_ _
      rw [List.contains_iff_mem, same]

/-! ### Rules -/

/-- The pairs of path and method that methods of a rule declare. -/
def pairsOn (path : String) (methods : List (String × Constraint)) : List (String × String) :=
  methods.map fun entry => (path, Text.Ascii.upper entry.1)

/-- The faults of one method of a rule: it is no token, its constraint names headers that
cannot exist, or, where repetitions are refused, its pair with the path was declared
before. -/
def methodFaults (place : Place) (path : String) (refuseRepeats : Bool)
    (declared : List (String × String)) (entry : String × Constraint) : List PolicyError :=
  faultIf (Text.Ascii.isToken (Text.Ascii.upper entry.1) = false)
      (.invalidMethod place.integration place.caller place.rule (Text.Ascii.upper entry.1)) ++
    ((entry.2.headers.keys.filter fun header =>
        (headerName? (Text.Utf8.bytes header)).isNone).map
      (.invalidHeaderName place.integration place.caller place.rule) ++
    faultIf (refuseRepeats = true ∧ (path, Text.Ascii.upper entry.1) ∈ declared)
      (.duplicateRule place.integration place.caller place.rule (Text.Ascii.upper entry.1) path))

/-- The faults of one rule, after the rules before it: its path is blank, it has no methods,
or there are faults in its methods, which come in the order of their names. -/
def ruleFaults (integration caller : String) (refuseRepeats : Bool) (earlier : List Rule)
    (rule : Rule) : List PolicyError :=
  faultIf (Params.isBlankText rule.path = true) (.emptyPath integration caller earlier.length) ++
    (faultIf (rule.methods.isEmpty = true)
      (.noMethods integration caller earlier.length rule.path) ++
    inOrder (fun before => methodFaults ⟨integration, caller, earlier.length⟩
        (Path.cleanText rule.path) refuseRepeats
        (earlier.flatMap Rule.pairs ++ pairsOn (Path.cleanText rule.path) before))
      [] rule.methods.entries)

/-- The faults of the rules of the caller with a given id. -/
def rulesFaults (integration id : String) (refuseRepeats : Bool) (rules : List Rule) :
    List PolicyError :=
  inOrder (ruleFaults integration (callerKey id) refuseRepeats) [] rules

/-- Of a sound method only the repetition can be a fault. -/
theorem methodFaults_of_sound {entry : String × Constraint} (sound : MethodSound entry)
    (place : Place) (path : String) (declared : List (String × String)) :
    methodFaults place path true declared entry =
      faultIf ((path, Text.Ascii.upper entry.1) ∈ declared)
        (.duplicateRule place.integration place.caller place.rule (Text.Ascii.upper entry.1)
          path) := by
  have possible : (entry.2.headers.keys.filter fun header =>
      (headerName? (Text.Utf8.bytes header)).isNone) = [] := by
    rw [List.filter_eq_nil_iff]
    intro header isHeader
    simp [Option.isNone_iff_eq_none, ← Option.isSome_iff_ne_none, sound.2 header isHeader]
  rw [methodFaults, possible, faultIf, if_neg (by simp [sound.1])]
  simp [faultIf]

theorem checkMethods_reports {place : Place} {path : String} {refuseRepeats : Bool}
    {declared : List (String × String)} (seen : List (String × String))
    (before methods : List (String × Constraint))
    (same : ∀ pair, pair ∈ seen ↔ pair ∈ declared ++ pairsOn path before) :
    Reports (checkMethods place path refuseRepeats seen methods)
      (inOrder (fun before => methodFaults place path refuseRepeats
        (declared ++ pairsOn path before)) before methods) := by
  induction methods generalizing seen before with
  | nil => exact reports_ok _
  | cons entry rest inductionHypothesis =>
      obtain ⟨name, constraint⟩ := entry
      have next := inductionHypothesis ((path, Text.Ascii.upper name) :: seen)
        (before ++ [(name, constraint)]) (by
          intro pair
          rw [List.mem_cons, same]
          simp [pairsOn, or_left_comm, or_comm, eq_comm])
      rw [checkMethods, inOrder, methodFaults, List.append_assoc, List.append_assoc]
      refine Reports.orElse (Reports.orFind (fun header bad => ?_) fun allPossible => ?_) ?_ _
      · simp only [bad]
      · simp only [allPossible]
        refine Reports.orElse next ?_ _
        rw [Bool.and_eq_true, List.contains_iff_mem, same]
      · rw [Bool.not_eq_true']

theorem checkRules_reports {integration caller : String} {refuseRepeats : Bool}
    (seen : List (String × String)) (earlier rules : List Rule)
    (same : ∀ pair, pair ∈ seen ↔ pair ∈ earlier.flatMap Rule.pairs) :
    Reports (checkRules integration caller refuseRepeats earlier.length seen rules)
      (inOrder (ruleFaults integration caller refuseRepeats) earlier rules) := by
  induction rules generalizing seen earlier with
  | nil => exact reports_ok _
  | cons rule rest inductionHypothesis =>
      rw [checkRules, inOrder, ruleFaults, List.append_assoc, List.append_assoc]
      refine Reports.orElse (Reports.orElse (Reports.bind ?_ fun seenNow checked => ?_) .rfl _)
        .rfl _
      · exact checkMethods_reports seen [] _ (by simpa [pairsOn] using same)
      · obtain ⟨_, _, rfl⟩ := checkMethods_eq_ok_iff.mp checked
        have next := inductionHypothesis (rule.pairs.reverse ++ seen) (earlier ++ [rule])
          (by simp [same, or_comm])
        rw [List.length_append, List.length_singleton] at next
        exact next

theorem rules_reports (integration id : String) (refuseRepeats : Bool) (declared : List Rule) :
    Reports (rules integration id refuseRepeats declared)
      (rulesFaults integration id refuseRepeats declared) :=
  checkRules_reports [] [] declared (by simp)

end CallPolicy.Validation
