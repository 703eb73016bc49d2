import CallPolicy.Proofs.AllowInvariant
import CallPolicy.Proofs.FirstFault

/-!
Contract: the allowed callers that are listed for an integration, installed again.

Owns:
- that a list of stored callers is stored as it was, and exactly when it is accepted;
- the one thing that can be wrong with it, a slot that a rule takes after an earlier one.

Does not own: lists of denied callers, which are always accepted again.

## Why the list may be refused

Generated rules may repeat each other and the own rules of their caller. In the list they
stand among the own rules, and those must not repeat anything. Everything else that is
checked holds of stored rules.
-/

namespace CallPolicy

open Checks

/-- A rule at some place takes, with one of its methods, a slot that a rule before it takes.
The last argument is the text of the segments. -/
inductive Rule.Repeats (rules : List Rule) : Nat → String → String → Prop
  | intro {before after : List Rule} {rule : Rule} {method : String}
      (cut : rules = before ++ rule :: after) (isMethod : method ∈ rule.methods.keys)
      (taken : (rule.segments, method) ∈ before.flatMap Rule.slots) :
      Repeats rules before.length method ("/" ++ "/".intercalate rule.segments)

namespace Validation

/-- The faults of a method of a stored rule, apart from repetitions, are none. -/
theorem methodFaults_of_ready {rule : Rule} (ready : rule.Ready) {entry : String × Constraint}
    (isEntry : entry ∈ rule.methods.entries) (place : Place) (path : String)
    (declared : List (String × String)) :
    methodFaults place path true declared entry =
      faultIf ((path, entry.1) ∈ declared)
        (.duplicateRule place.integration place.caller place.rule entry.1 path) := by
  rw [methodFaults_of_sound (ready.sound.each entry isEntry),
    (ready.tokens entry.1 (List.mem_map_of_mem isEntry)).2]

/-- The methods of one stored rule differ, so none of them repeats another. -/
theorem not_mem_pairsOn_of_ready {rule : Rule} (ready : rule.Ready)
    {earlier later : List (String × Constraint)} {entry : String × Constraint}
    (entries : rule.methods.entries = earlier ++ entry :: later) (path : String) :
    (path, entry.1) ∉ pairsOn path earlier := by
  intro declared
  obtain ⟨other, isEarlier, same⟩ := List.mem_map.mp declared
  have isEntry : entry ∈ rule.methods.entries := by
    rw [entries]
    exact List.mem_append_right _ List.mem_cons_self
  have upper := (ready.tokens entry.1 (List.mem_map_of_mem isEntry)).2
  have distinct := ready.methodsDistinct
  rw [Rule.MethodsDistinct, entries, List.map_append, List.nodup_append] at distinct
  refine distinct.2.2 _ (List.mem_map_of_mem isEarlier) (Text.Ascii.upper entry.1) (by simp) ?_
  rw [upper]
  exact (Prod.mk.inj same).2

/-- Of stored rules only repetitions can be refused. -/
theorem repeats_of_mem_rulesFaults {integration id : String} {rules : List Rule}
    (ready : ∀ rule ∈ rules, rule.Ready) {fault : PolicyError}
    (isFault : fault ∈ rulesFaults integration id true rules) :
    ∃ place method path, fault = .duplicateRule integration (callerKey id) place method path ∧
      Rule.Repeats rules place method path := by
  obtain ⟨before, rule, after, rfl, ofRule⟩ := mem_inOrder.mp isFault
  have isRule : rule ∈ before ++ rule :: after := List.mem_append_right _ List.mem_cons_self
  have ruleReady := ready rule isRule
  rw [List.nil_append, ruleFaults, faultIf, faultIf, if_neg (by simp [ruleReady.path]),
    if_neg (by simp [ruleReady.methods]), List.nil_append, List.nil_append] at ofRule
  obtain ⟨earlier, entry, later, entries, ofMethod⟩ := mem_inOrder.mp ofRule
  have isEntry : entry ∈ rule.methods.entries := by
    rw [entries]
    exact List.mem_append_right _ List.mem_cons_self
  have isMethod : entry.1 ∈ rule.methods.keys := List.mem_map_of_mem isEntry
  rw [methodFaults_of_ready ruleReady isEntry, mem_faultIf] at ofMethod
  obtain ⟨repeated, rfl⟩ := ofMethod
  have path : Path.cleanText rule.path = "/" ++ "/".intercalate rule.segments := by
    rw [Path.cleanText, ← ruleReady.segments]
  rw [path] at repeated ⊢
  refine ⟨_, _, _, rfl, .intro rfl isMethod ?_⟩
  rcases List.mem_append.mp repeated with inBefore | inRule
  · obtain ⟨other, isBefore, isPair⟩ := List.mem_flatMap.mp inBefore
    have isOther : other ∈ before ++ rule :: after := List.mem_append_left _ isBefore
    rw [(ready other isOther).pairs_eq] at isPair
    obtain ⟨slot, isSlot, same⟩ := List.mem_map.mp isPair
    have slotEq : slot = (rule.segments, entry.1) :=
      Rule.slot_eq_of_slotText ready (List.mem_flatMap.mpr ⟨other, isOther, isSlot⟩)
        (List.mem_flatMap.mpr ⟨rule, isRule, List.mem_map_of_mem isMethod⟩) same
    exact List.mem_flatMap.mpr ⟨other, isBefore, slotEq ▸ isSlot⟩
  · exact absurd inRule (not_mem_pairsOn_of_ready ruleReady entries _)

end Validation

namespace Allowlist

section Listing

variable {name : String} {index : AllowIndex} (stored : StoredAs name index)

include stored

theorem StoredAs.storedAs_of_mem {caller : AllowCaller} (member : caller ∈ index.values) :
    caller.StoredAs caller.id := by
  obtain ⟨entry, isEntry, rfl⟩ := List.mem_map.mp member
  have isStored := stored.callers entry isEntry
  rwa [isStored.id]

theorem StoredAs.declared_eq (registry : Registry) {caller : AllowCaller}
    (member : caller ∈ index.values) : registry.declared name caller = caller.rules := by
  rw [Registry.declared, (stored.storedAs_of_mem member).expanded, List.flatMap_nil,
    List.append_nil]

theorem StoredAs.keys_of_values :
    (index.values.map fun caller => callerKey caller.id) = index.keys := by
  rw [Keyed.values, List.map_map]
  refine List.map_congr_left fun entry member => ?_
  have isStored := stored.callers entry member
  exact (congrArg callerKey isStored.id).trans (callerKey_of_ne_empty isStored.named)

/-- The listed callers are accepted when no rules of one caller take a slot twice. -/
theorem StoredAs.accepted_values_iff (registry : Registry) :
    Accepted registry name index.values ↔
      ∀ caller ∈ index.values, (caller.rules.flatMap Rule.slots).Nodup := by
  constructor
  · intro accepted caller member
    have ready := (stored.storedAs_of_mem member).ready
    rw [← Rule.map_prepare_of_ready ready]
    exact Rule.slots_nodup (accepted.ownDistinct caller member)
  · intro distinct
    refine ⟨?_, fun caller member => ?_, fun caller member use isUse => ?_, ?_⟩
    · rw [stored.keys_of_values]
      exact index.keys_nodup
    · exact Rule.pairs_nodup (stored.storedAs_of_mem member).ready (distinct caller member)
    · rw [(stored.storedAs_of_mem member).expanded] at isUse
      cases isUse
    · intro caller member rule isRule
      rw [stored.declared_eq registry member] at isRule
      exact ((stored.storedAs_of_mem member).ready rule isRule).sound

theorem StoredAs.installed_eq (registry : Registry) {caller : AllowCaller}
    (member : caller ∈ index.values) : installed registry name caller = caller := by
  have isStored := stored.storedAs_of_mem member
  rw [installed, stored.declared_eq registry member, Rule.map_prepare_of_ready isStored.ready,
    callerKey_of_ne_empty isStored.named, ← isStored.expanded]

theorem StoredAs.indexOf_values (registry : Registry) :
    indexOf registry name index.values = index := by
  have same : (index.values.map fun caller =>
      (callerKey caller.id, installed registry name caller)) = index.entries := by
    rw [Keyed.values, List.map_map]
    refine (List.map_congr_left fun entry member => ?_).trans (List.map_id _)
    have isStored := stored.callers entry member
    have key : callerKey entry.2.id = entry.1 := by
      rw [isStored.id, callerKey_of_ne_empty isStored.named]
    exact Prod.ext key (stored.installed_eq registry (List.mem_map_of_mem member))
  rw [indexOf, same, Keyed.ofList_entries]

/-- What can be wrong with the listed callers is that a rule of one of them takes a slot
again. -/
theorem StoredAs.repeats_of_mem_callersFaults (registry : Registry) {fault : PolicyError}
    (isFault : fault ∈ callersFaults registry name index.values) :
    ∃ caller ∈ index.values, ∃ place method path,
      fault = .duplicateRule name caller.id place method path ∧
        Rule.Repeats caller.rules place method path := by
  have ids : inOrder (Validation.callerFaults name) [] (index.values.map AllowCaller.id) = [] := by
    refine (Validation.uniqueCallers_reports [] [] _ (by simp)).exists_ok_iff.mp ⟨(), ?_⟩
    rw [Validation.uniqueCallers_eq_ok_iff, List.map_map]
    exact ⟨stored.keys_of_values ▸ index.keys_nodup, by simp⟩
  have capabilities : index.values.flatMap (registry.capabilityFaults name) = [] := by
    rw [List.flatMap_eq_nil_iff]
    intro caller member
    rw [Registry.capabilityFaults, (stored.storedAs_of_mem member).expanded, List.flatMap_nil]
  have declared : (index.values.flatMap fun caller => Validation.rulesFaults name caller.id false
      (registry.declared name caller)) = [] := by
    rw [List.flatMap_eq_nil_iff]
    intro caller member
    rw [stored.declared_eq registry member]
    refine (Validation.rules_reports name caller.id false _).exists_ok_iff.mp ⟨(), ?_⟩
    rw [Validation.rules_eq_ok_iff]
    exact ⟨fun rule isRule => ((stored.storedAs_of_mem member).ready rule isRule).sound, nofun⟩
  rw [callersFaults, ids, capabilities, declared, List.nil_append, List.nil_append,
    List.append_nil, List.mem_flatMap] at isFault
  obtain ⟨caller, member, ofCaller⟩ := isFault
  have isStored := stored.storedAs_of_mem member
  obtain ⟨place, method, path, rfl, repeats⟩ :=
    Validation.repeats_of_mem_rulesFaults isStored.ready ofCaller
  rw [callerKey_of_ne_empty isStored.named]
  exact ⟨caller, member, place, method, path, rfl, repeats⟩

end Listing

section Installing

variable {allowlist : Allowlist} (stored : allowlist.WellStored) {integration : String}
  {index : AllowIndex} (found : allowlist.get? (integrationKey integration) = some index)

include stored found

/-- The callers that are listed for an installed integration can be installed again exactly
when no rules of one caller take a slot twice. Nothing changes then. -/
theorem WellStored.set_callers_eq_ok_iff (registry : Registry) {after : Allowlist} :
    allowlist.set registry integration (allowlist.callers integration) = .ok after ↔
      (∀ caller ∈ allowlist.callers integration, (caller.rules.flatMap Rule.slots).Nodup) ∧
        after = allowlist := by
  have storedIndex := stored _ (Keyed.get?_eq_some_iff.mp found)
  rw [callers, found, set_eq_ok_iff, storedIndex.accepted_values_iff,
    storedIndex.indexOf_values, Keyed.insert_of_get? found]
  exact and_iff_right storedIndex.named

/-- If they cannot, the refusal names a rule that takes a slot again. -/
theorem WellStored.repeats_of_set_callers (registry : Registry) {error : PolicyError}
    (refused : allowlist.set registry integration (allowlist.callers integration) =
      .error error) :
    ∃ caller ∈ allowlist.callers integration, ∃ place method path,
      error = .duplicateRule (integrationKey integration) caller.id place method path ∧
        Rule.Repeats caller.rules place method path := by
  have storedIndex := stored _ (Keyed.get?_eq_some_iff.mp found)
  have listed : allowlist.callers integration = index.values := by rw [callers, found]
  have named : (integrationKey integration).isEmpty = false := by
    simpa [String.isEmpty_iff] using storedIndex.named
  have reports := buildIndex_reports registry (integrationKey integration) index.values
  rw [listed] at refused ⊢
  simp only [set, named, Bool.false_eq_true, if_false] at refused
  cases built : buildIndex registry (integrationKey integration) index.values with
  | ok _ =>
      rw [built] at refused
      cases refused
  | error cause =>
      rw [built] at refused
      obtain rfl : cause = error := Except.error.inj refused
      exact storedIndex.repeats_of_mem_callersFaults registry
        (List.mem_of_mem_head? (reports.eq_error_iff.mp built))

end Installing

end Allowlist

/-! ### Reachable engines -/

/-- In every engine that is reached, the allowed callers that are listed for an installed
integration are accepted again exactly when no rules of one of them, own or generated, take
the same segments with the same method. The engine stays as it is in either case, and a
refusal says which rule takes which slot again. -/
theorem Engine.reinstall_allowed {registry : Registry} {engine : Engine}
    (reachable : Reachable registry engine) {integration : String} {index : AllowIndex}
    (installed : engine.allowlist.get? (integrationKey integration) = some index) :
    ((engine.call (.setAllowed integration (engine.allowlist.callers integration))).1 = .ok () ↔
        ∀ caller ∈ engine.allowlist.callers integration,
          (caller.rules.flatMap Rule.slots).Nodup) ∧
      (engine.call (.setAllowed integration (engine.allowlist.callers integration))).2 =
        engine ∧
      ∀ error,
        (engine.call (.setAllowed integration (engine.allowlist.callers integration))).1 =
            .error error →
          ∃ caller ∈ engine.allowlist.callers integration, ∃ place method path,
            error = .duplicateRule (integrationKey integration) caller.id place method path ∧
              Rule.Repeats caller.rules place method path := by
  have stored := reachable.allowlist_invariant Allowlist.wellStored_empty
    fun before after => Allowlist.WellStored.writes
  rw [call_eq, Command.asks]
  cases set : engine.allowlist.set engine.registry integration
      (engine.allowlist.callers integration) with
  | ok after =>
      obtain ⟨distinct, rfl⟩ := (stored.set_callers_eq_ok_iff installed engine.registry).mp set
      exact ⟨iff_of_true rfl distinct, rfl, nofun⟩
  | error cause =>
      refine ⟨iff_of_false nofun fun distinct => ?_, rfl, ?_⟩
      · have succeeds :=
          (stored.set_callers_eq_ok_iff installed engine.registry).mpr ⟨distinct, rfl⟩
        rw [set] at succeeds
        cases succeeds
      · intro error same
        cases same
        exact stored.repeats_of_set_callers installed engine.registry set

namespace ReinstalledSample

/-- A capability of all integrations that reads every path. -/
def readers : Registry :=
  Registry.empty.register "*" "read"
    (.optional [] fun _ => .ok [(Rule.onPath "/**").withMethod "get" .unrestricted])

/-- A caller whose capability reads what an own rule reads too, and one whose rules differ. -/
def commands : List Command :=
  [.setAllowed "GitHub" [⟨"", [⟨"read", Keyed.empty⟩],
      [(Rule.onPath "**/").withMethod "Get" .unrestricted]⟩],
    .setAllowed "Slack" [⟨"ci", [⟨"read", Keyed.empty⟩],
      [(Rule.onPath "/a").withMethod "get" .unrestricted]⟩]]

def engine : Engine := ((Engine.ofRegistry readers).calls commands).2

end ReinstalledSample

open ReinstalledSample in
theorem Engine.reinstall_allowed_sample :
    (engine.call (.setAllowed "slack" (engine.allowlist.callers "slack"))).1 = .ok () ∧
      (engine.call (.setAllowed "github" (engine.allowlist.callers "github"))).1 =
        .error (.duplicateRule "github" "*" 1 "GET" "/**") ∧
      (engine.call (.setAllowed "github" (engine.allowlist.callers "github"))).2 = engine := by
  have reachable : Reachable readers engine := reachable_calls readers commands
  have slackFound : (engine.allowlist.get? (integrationKey "slack")).isSome = true := by
    decide +kernel
  have githubFound : (engine.allowlist.get? (integrationKey "github")).isSome = true := by
    decide +kernel
  obtain ⟨slack, isSlack⟩ := Option.isSome_iff_exists.mp slackFound
  obtain ⟨github, isGithub⟩ := Option.isSome_iff_exists.mp githubFound
  obtain ⟨slackAccepted, _⟩ := reinstall_allowed reachable isSlack
  obtain ⟨_, githubKept, _⟩ := reinstall_allowed reachable isGithub
  exact ⟨slackAccepted.mpr (by decide +kernel), by decide +kernel, githubKept⟩

end CallPolicy
