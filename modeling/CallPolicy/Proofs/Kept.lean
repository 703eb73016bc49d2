import CallPolicy.Proofs.Installed
import CallPolicy.Proofs.Prepared

/-!
Contract: what installed rules keep of the rules that were declared.

Owns:
- the rules that an allowlist holds for a caller of an integration;
- when all declared constraints are kept, for one integration and for a batch.

Does not own: which constraint decides about a request.
-/

namespace CallPolicy

/-- A prepared rule has, under each method of a declared one in upper case, exactly the
declared constraint. -/
def Rule.KeptBy (rule installed : Rule) : Prop :=
  ∀ entry ∈ rule.methods.entries,
    installed.methods.get? (Text.Ascii.upper entry.1) = some entry.2

namespace Allowlist

/-- The rules that are installed for a caller, if the caller is installed. -/
def rulesFor? (allowlist : Allowlist) (integration caller : String) : Option (List Rule) :=
  (allowlist.get? (integrationKey integration)).bind fun index =>
    (index.get? (callerKey caller)).map AllowCaller.rules

/-- Position by position, the rules installed for each caller keep all constraints of
its own rules and of those that its capabilities generate. -/
def KeepsAll (registry : Registry) (allowlist : Allowlist) (integration : String)
    (callers : List AllowCaller) : Prop :=
  ∀ caller ∈ callers, ∃ rules, allowlist.rulesFor? integration caller.id = some rules ∧
    List.Forall₂ Rule.KeptBy (registry.declared (integrationKey integration) caller) rules

/-- No capability of the callers generates a rule in which methods that are equal up to
case carry different constraints. -/
def GeneratesUnambiguous (registry : Registry) (integration : String)
    (callers : List AllowCaller) : Prop :=
  ∀ caller ∈ callers, ∀ use ∈ caller.capabilities,
    ∀ rule ∈ registry.generated (integrationKey integration) use, rule.Unambiguous

instance (registry : Registry) (integration : String) (callers : List AllowCaller) :
    Decidable (GeneratesUnambiguous registry integration callers) := by
  unfold GeneratesUnambiguous Rule.Unambiguous
  infer_instance

/-- What an allowlist holds of declared callers: their rules in order, each prepared,
with all constraints of their own rules, and with all constraints of all rules exactly
when the generated rules are unambiguous. -/
structure Holds (registry : Registry) (allowlist : Allowlist) (integration : String)
    (callers : List AllowCaller) : Prop where
  inOrder : ∀ caller ∈ callers, allowlist.rulesFor? integration caller.id =
    some ((registry.declared (integrationKey integration) caller).map Rule.prepare)
  ownKept : ∀ caller ∈ callers, ∀ rule ∈ caller.rules, rule.KeptBy rule.prepare
  keepsAll : KeepsAll registry allowlist integration callers ↔
    GeneratesUnambiguous registry integration callers

section Installing

variable {registry : Registry}

/-- Own rules of accepted callers are unambiguous, so preparation keeps them. -/
theorem Accepted.unambiguous {integration : String} {callers : List AllowCaller}
    (accepted : Accepted registry integration callers) {caller : AllowCaller}
    (member : caller ∈ callers) {rule : Rule} (own : rule ∈ caller.rules) :
    rule.Unambiguous :=
  Rule.unambiguous_of_distinct
    (Rule.methodsDistinct_of_mem (accepted.ownDistinct caller member) own)

/-- An allowlist that has the index of accepted callers holds them. -/
theorem holds_of_get? {allowlist : Allowlist} {integration : String}
    {callers : List AllowCaller}
    (accepted : Accepted registry (integrationKey integration) callers)
    (found : allowlist.get? (integrationKey integration) =
      some (indexOf registry (integrationKey integration) callers)) :
    Holds registry allowlist integration callers := by
  have inOrder : ∀ caller ∈ callers, allowlist.rulesFor? integration caller.id =
      some ((registry.declared (integrationKey integration) caller).map Rule.prepare) := by
    intro caller member
    rw [rulesFor?, found, Option.bind_some, get?_indexOf accepted,
      find?_name_of_mem accepted.distinct member]
    rfl
  refine ⟨inOrder, fun caller member rule own => ?_, ?_⟩
  · exact (Rule.prepare_keeps_iff rule).mpr (accepted.unambiguous member own)
  · constructor
    · intro keeps caller member use isUse rule isRule
      obtain ⟨rules, isInstalled, kept⟩ := keeps caller member
      rw [inOrder caller member, Option.some.injEq] at isInstalled
      subst isInstalled
      rw [List.forall₂_map_right_iff, List.forall₂_same] at kept
      refine (Rule.prepare_keeps_iff rule).mp (kept rule ?_)
      exact List.mem_append_right _ (List.mem_flatMap.mpr ⟨use, isUse, isRule⟩)
    · intro unambiguous caller member
      refine ⟨_, inOrder caller member, ?_⟩
      rw [List.forall₂_map_right_iff, List.forall₂_same]
      intro rule isRule
      refine (Rule.prepare_keeps_iff rule).mpr ?_
      rcases List.mem_append.mp isRule with own | generated
      · exact accepted.unambiguous member own
      · obtain ⟨use, isUse, isGenerated⟩ := List.mem_flatMap.mp generated
        exact unambiguous caller member use isUse rule isGenerated

end Installing

/-- Installing the callers of one integration, or a batch, holds what they declare. -/
theorem holds_declared (registry : Registry) :
    (∀ (allowlist after : Allowlist) (integration : String) (callers : List AllowCaller),
        allowlist.set registry integration callers = .ok after →
          Holds registry after integration callers) ∧
      ∀ (entries : List AllowEntry) (built : Allowlist), build registry entries = .ok built →
        ∀ entry ∈ entries, Holds registry built entry.integration entry.callers := by
  constructor
  · intro allowlist after integration callers succeeded
    obtain ⟨_, accepted, rfl⟩ := set_eq_ok_iff.mp succeeded
    refine holds_of_get? accepted ?_
    rw [Keyed.get?_insert, if_pos rfl]
  · intro entries built succeeded entry member
    obtain ⟨accepted, rfl⟩ := build_eq_ok_iff.mp succeeded
    refine holds_of_get? (accepted.each entry member) ?_
    have distinct := accepted.names.distinct
    rw [List.map_map] at distinct
    have isFirst := find?_name_of_mem distinct member
    simp only [Function.comp_apply] at isFirst
    rw [get?_listOf accepted, isFirst]
    rfl

namespace CollapseSample

/-- The constraint that asks for a header. -/
def strict : Constraint := Constraint.unrestricted.withHeader "x-team" "ops"

/-- A registry with a capability whose rule has the method GET twice: asking for a
header, and in lower case without any constraint. -/
def registry : Registry :=
  Registry.empty.register "github" "read" (.optional [] fun _ =>
    .ok [((Rule.onPath "/repos").withMethod "GET" strict).withMethod "get" .unrestricted])

/-- One caller with that capability. -/
def callers : List AllowCaller := [⟨"ci", [⟨"read", Keyed.empty⟩], []⟩]

/-- The callers are accepted: the check for repeated methods skips generated rules. -/
theorem set_succeeds : ∃ after, set registry Keyed.empty "github" callers = .ok after := by
  have succeeds : (set registry Keyed.empty "github" callers).toOption.isSome = true := by
    decide +kernel
  cases outcome : set registry Keyed.empty "github" callers with
  | error error =>
      rw [outcome] at succeeds
      cases succeeds
  | ok after => exact ⟨after, rfl⟩

end CollapseSample

theorem holds_declared_collapse :
    ∃ after, set CollapseSample.registry Keyed.empty "github" CollapseSample.callers = .ok after ∧
      Holds CollapseSample.registry after "github" CollapseSample.callers := by
  obtain ⟨after, outcome⟩ := CollapseSample.set_succeeds
  exact ⟨after, outcome, (holds_declared CollapseSample.registry).1 _ _ _ _ outcome⟩

/-- The strict constraint that the generated rule declares is not installed. -/
theorem set_drops_constraint :
    ∃ after, set CollapseSample.registry Keyed.empty "github" CollapseSample.callers = .ok after ∧
      ¬ KeepsAll CollapseSample.registry after "github" CollapseSample.callers := by
  obtain ⟨after, outcome⟩ := CollapseSample.set_succeeds
  refine ⟨after, outcome, ?_⟩
  obtain ⟨_, accepted, rfl⟩ := set_eq_ok_iff.mp outcome
  have found := Keyed.get?_insert (Keyed.empty : Allowlist) (integrationKey "github")
    (integrationKey "github")
    (indexOf CollapseSample.registry (integrationKey "github") CollapseSample.callers)
  rw [if_pos rfl] at found
  rw [(holds_of_get? accepted found).keepsAll]
  decide +kernel

end Allowlist

end CallPolicy
