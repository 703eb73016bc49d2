import CallPolicy.Proofs.Faults
import CallPolicy.Proofs.Installed

/-!
Contract: a batch of entries is built when nothing is wrong with it, and otherwise ends with
the fault that comes first.

Owns:
- the faults of declared capabilities;
- all faults of the entries of either list, in the order in which a developer is told of
  them;
- that building a list succeeds exactly where there is no fault, and fails with the first
  one of them.

Does not own: the faults of single names, callers and rules.
-/

namespace CallPolicy

open Checks

/-! ### Capabilities -/

namespace Registry

/-- The faults of one declared capability: it is unknown, or it is given parameters that it
does not know, or it refuses its parameters. -/
def useFaults (registry : Registry) (integration caller : String) (use : CapabilityUse) :
    List PolicyError :=
  match registry.lookup integration use.name with
  | none => [.unknownCapability integration caller use.name]
  | some spec =>
      (use.params.keys.filter fun param => !spec.accepts param).map
          (.unknownParameter integration caller use.name) ++
        match spec.generate use.params with
        | .ok _ => []
        | .error cause => [.refusedCapability integration caller use.name cause]

/-- The faults of the capabilities of a caller, in the order in which it declares them. -/
def capabilityFaults (registry : Registry) (integration : String) (caller : AllowCaller) :
    List PolicyError :=
  caller.capabilities.flatMap (registry.useFaults integration (callerKey caller.id))

theorem rulesOf_reports (registry : Registry) (integration caller : String)
    (use : CapabilityUse) :
    Reports (registry.rulesOf integration caller use)
      (registry.useFaults integration caller use) := by
  unfold rulesOf useFaults
  cases registry.lookup integration use.name with
  | none => exact reports_error _ _
  | some spec =>
      refine Reports.orFind (fun param unknown => ?_) fun allKnown => ?_
      · simp only [unknown]
      · simp only [allKnown]
        cases spec.generate use.params with
        | ok rules => exact reports_ok rules
        | error cause => exact reports_error _ _

theorem expand_reports (registry : Registry) (integration : String)
    (callers : List AllowCaller) :
    Reports (registry.expand integration callers)
      (callers.flatMap (registry.capabilityFaults integration)) := by
  refine reports_mapM (fun caller => ?_) callers
  exact (reports_mapM (registry.rulesOf_reports integration (callerKey caller.id))
    caller.capabilities).bind_ok fun generated =>
      AllowCaller.mk caller.id [] (caller.rules ++ generated.flatten)

end Registry

/-! ### Loops over items and batches -/

section Loops

variable {α β : Type}

/-- A loop that stores what a check gives for each item ends with the first fault of the
items. -/
theorem Keyed.storeAll_reports (loop : Keyed β → List α → Except PolicyError (Keyed β))
    (nameOf : α → String) (check : α → Except PolicyError β)
    (stop : ∀ built, loop built [] = .ok built)
    (step : ∀ built item rest, loop built (item :: rest) =
      check item >>= fun value => loop (built.insert (nameOf item) value) rest)
    {faultsOf : α → List PolicyError} (each : ∀ item, Reports (check item) (faultsOf item))
    (built : Keyed β) (items : List α) :
    Reports (loop built items) (items.flatMap faultsOf) := by
  induction items generalizing built with
  | nil =>
      rw [stop]
      exact reports_ok built
  | cons item rest inductionHypothesis =>
      rw [step, List.flatMap_cons]
      exact (each item).bind fun value _ => inductionHypothesis _

/-- The faults of a batch: those of all its names, then those of each entry under the key of
its name. -/
def Validation.batchFaults (nameOf : α → String) (faultsOf : String → α → List PolicyError)
    (entries : List α) : List PolicyError :=
  inOrder nameFaults [] (entries.map nameOf) ++
    entries.flatMap fun entry => faultsOf (integrationKey (nameOf entry)) entry

theorem Validation.batch_reports {loop : Keyed β → List (String × α) → Except PolicyError (Keyed β)}
    {faultsOf : String → α → List PolicyError}
    (spec : ∀ built pairs, Reports (loop built pairs)
      (pairs.flatMap fun pair => faultsOf pair.1 pair.2))
    (nameOf : α → String) (entries : List α) :
    Reports (integrationKeys 0 [] (entries.map nameOf) >>= fun keys =>
        loop Keyed.empty (keys.zip entries))
      (batchFaults nameOf faultsOf entries) := by
  refine Reports.bind (integrationKeys_reports [] [] _ (by simp)) fun keys checked => ?_
  obtain ⟨_, rfl⟩ := batchKeys_eq_ok_iff.mp checked
  have reports := spec Keyed.empty
    (entries.map fun entry => (integrationKey (nameOf entry), entry))
  rw [List.flatMap_map] at reports
  rw [zip_batchKeys]
  exact reports

end Loops

/-! ### Allowlists -/

namespace Allowlist

/-- The faults of the callers of an integration: ids that repeat, then the own rules of all
callers, then the capabilities of all callers, then all rules of all callers, generated ones
included, which may repeat each other. -/
def callersFaults (registry : Registry) (integration : String) (callers : List AllowCaller) :
    List PolicyError :=
  inOrder (Validation.callerFaults integration) [] (callers.map AllowCaller.id) ++
    (callers.flatMap (fun caller =>
        Validation.rulesFaults integration caller.id true caller.rules) ++
      (callers.flatMap (registry.capabilityFaults integration) ++
        callers.flatMap fun caller => Validation.rulesFaults integration caller.id false
          (registry.declared integration caller)))

/-- The faults of a batch of entries. -/
def faults (registry : Registry) (entries : List AllowEntry) : List PolicyError :=
  Validation.batchFaults AllowEntry.integration
    (fun integration entry => callersFaults registry integration entry.callers) entries

theorem indexExpanded_reports (integration : String) (index : AllowIndex)
    (expanded : List AllowCaller) :
    Reports (indexExpanded integration index expanded)
      (expanded.flatMap fun caller =>
        Validation.rulesFaults integration caller.id false caller.rules) := by
  refine Keyed.storeAll_reports (indexExpanded integration) (fun caller => callerKey caller.id)
    (fun caller => do
      Validation.rules integration caller.id false caller.rules
      .ok (install caller))
    (fun _ => rfl) (fun built caller rest => ?_) (fun caller => ?_) _ _
  · rw [indexExpanded]
    cases Validation.rules integration caller.id false caller.rules <;> rfl
  · exact (Validation.rules_reports integration caller.id false caller.rules).bind_ok
      fun _ => install caller

theorem buildIndex_reports (registry : Registry) (integration : String)
    (callers : List AllowCaller) :
    Reports (buildIndex registry integration callers)
      (callersFaults registry integration callers) := by
  refine Reports.bind (Validation.uniqueCallers_reports [] [] _ (by simp)) fun _ _ => ?_
  refine Reports.bind (reports_forM (fun caller => Validation.rules_reports _ _ _ _) _)
    fun _ _ => ?_
  refine Reports.bind (registry.expand_reports integration callers) fun expanded succeeded => ?_
  obtain ⟨_, rfl⟩ := Registry.expand_eq_ok_iff.mp succeeded
  have reports := indexExpanded_reports integration Keyed.empty
    (callers.map fun caller => ⟨caller.id, [], registry.declared integration caller⟩)
  rwa [List.flatMap_map] at reports

theorem build_reports (registry : Registry) (entries : List AllowEntry) :
    Reports (build registry entries) (faults registry entries) :=
  Validation.batch_reports
    (Keyed.storeAll_reports (buildEntries registry) Prod.fst
      (fun pair => buildIndex registry pair.1 pair.2.callers)
      (fun _ => rfl) (fun _ _ _ => rfl) fun pair => buildIndex_reports registry pair.1 _)
    AllowEntry.integration entries

end Allowlist

/-! ### Denylists -/

namespace Denylist

/-- The faults of the callers of an integration: ids that repeat, then the rules of all
callers. -/
def callersFaults (integration : String) (callers : List DenyCaller) : List PolicyError :=
  inOrder (Validation.callerFaults integration) [] (callers.map DenyCaller.id) ++
    callers.flatMap fun caller =>
      Validation.rulesFaults integration caller.id true caller.rules

/-- The faults of a batch of entries. -/
def faults (entries : List DenyEntry) : List PolicyError :=
  Validation.batchFaults DenyEntry.integration
    (fun integration entry => callersFaults integration entry.callers) entries

theorem indexCallers_reports (integration : String) (index : DenyIndex)
    (callers : List DenyCaller) :
    Reports (indexCallers integration index callers)
      (callers.flatMap fun caller =>
        Validation.rulesFaults integration caller.id true caller.rules) := by
  refine Keyed.storeAll_reports (indexCallers integration) (fun caller => callerKey caller.id)
    (fun caller => do
      Validation.rules integration caller.id true caller.rules
      .ok (caller.rules.map Rule.prepare))
    (fun _ => rfl) (fun built caller rest => ?_) (fun caller => ?_) _ _
  · rw [indexCallers]
    cases Validation.rules integration caller.id true caller.rules <;> rfl
  · exact (Validation.rules_reports integration caller.id true caller.rules).bind_ok
      fun _ => caller.rules.map Rule.prepare

theorem buildIndex_reports (integration : String) (callers : List DenyCaller) :
    Reports (buildIndex integration callers) (callersFaults integration callers) :=
  Reports.bind (Validation.uniqueCallers_reports [] [] _ (by simp))
    fun _ _ => indexCallers_reports integration Keyed.empty callers

theorem build_reports (entries : List DenyEntry) :
    Reports (build entries) (faults entries) :=
  Validation.batch_reports
    (Keyed.storeAll_reports buildEntries Prod.fst (fun pair => buildIndex pair.1 pair.2.callers)
      (fun _ => rfl) (fun _ _ _ => rfl) fun pair => buildIndex_reports pair.1 _)
    DenyEntry.integration entries

end Denylist

/-- A list is built from a batch exactly when the batch has no fault. A batch with faults is
answered with the first of them. -/
theorem Validation.build_reports_first_fault :
    (∀ (registry : Registry) (entries : List AllowEntry),
        ((∃ built, Allowlist.build registry entries = .ok built) ↔
            Allowlist.faults registry entries = []) ∧
          ∀ error, Allowlist.build registry entries = .error error ↔
            (Allowlist.faults registry entries).head? = some error) ∧
      ∀ entries : List DenyEntry,
        ((∃ built, Denylist.build entries = .ok built) ↔ Denylist.faults entries = []) ∧
          ∀ error, Denylist.build entries = .error error ↔
            (Denylist.faults entries).head? = some error :=
  ⟨fun registry entries => ⟨(Allowlist.build_reports registry entries).exists_ok_iff,
      fun _ => (Allowlist.build_reports registry entries).eq_error_iff⟩,
    fun entries => ⟨(Denylist.build_reports entries).exists_ok_iff,
      fun _ => (Denylist.build_reports entries).eq_error_iff⟩⟩

/-- Names come before everything else, and the own rules of all callers before the
capabilities of any. -/
example :
    Allowlist.faults Registry.empty
        [⟨"github", [⟨"ci", [⟨"read", Keyed.empty⟩], []⟩, ⟨"", [], [.onPath " "]⟩]⟩,
          ⟨" GitHub", []⟩] =
      [.duplicateIntegration "github", .emptyPath "github" "*" 0, .noMethods "github" "*" 0 " ",
        .unknownCapability "github" "ci" "read", .emptyPath "github" "*" 0,
        .noMethods "github" "*" 0 " "] := by
  decide +kernel

end CallPolicy
