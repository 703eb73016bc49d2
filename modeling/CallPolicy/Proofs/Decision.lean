import CallPolicy.Proofs.Changes
import CallPolicy.Proofs.Evaluation
import CallPolicy.Proofs.Installed
import CallPolicy.Proofs.Prepared

/-!
Contract: decisions after a replacement of both lists, read off the entries that were
declared.

Owns:
- the rules that a batch declares for a caller of an integration;
- the constraint that declared rules select, and whether declared rules forbid a
  request;
- the declared decision, and its agreement with the decision of the engine.

Does not own: whether the entries are accepted.
-/

namespace CallPolicy

/-! ### What the entries declare -/

/-- The rules that entries declare for a caller of an integration: its own, then those
of its capabilities. -/
def Registry.rulesFor (registry : Registry) (allowed : List AllowEntry)
    (integration caller : String) : List Rule :=
  match allowed.find? fun entry =>
      integrationKey entry.integration = integrationKey integration with
  | none => []
  | some entry =>
      match entry.callers.find? fun declared => callerKey declared.id = callerKey caller with
      | none => []
      | some declared => registry.declared (integrationKey entry.integration) declared

/-- The rules by which entries forbid requests of a caller of an integration. -/
def forbiddenFor (denied : List DenyEntry) (integration caller : String) : List Rule :=
  match denied.find? fun entry =>
      integrationKey entry.integration = integrationKey integration with
  | none => []
  | some entry =>
      match entry.callers.find? fun declared => callerKey declared.id = callerKey caller with
      | none => []
      | some declared => declared.rules

/-- No rule that a capability of the entries generates has two methods that are equal
up to case. -/
def Registry.GeneratesDistinct (registry : Registry) (allowed : List AllowEntry) : Prop :=
  ∀ entry ∈ allowed, ∀ caller ∈ entry.callers, ∀ use ∈ caller.capabilities,
    ∀ rule ∈ registry.generated (integrationKey entry.integration) use, rule.MethodsDistinct

instance (registry : Registry) (allowed : List AllowEntry) :
    Decidable (registry.GeneratesDistinct allowed) := by
  unfold Registry.GeneratesDistinct
  infer_instance

/-- The constraint of the first rule that covers a path and has the method. -/
def firstFor (rules : List Rule) (segments : List String) (method : String) :
    Option Constraint :=
  rules.findSome? fun rule =>
    if rule.reaches segments then (rule.constraintsFor method).head? else none

/-- The constraint that the rules of a caller select, or, when none of them covers the
path, the constraint that the rules for everyone select. -/
def selected? (own shared : List Rule) (segments : List String) (method : String) :
    Option Constraint :=
  match firstFor own segments method with
  | some constraint => some constraint
  | none =>
      if own.any fun rule => rule.reaches segments then none
      else firstFor shared segments method

/-- Whether a rule covers the path, has the method and is met by the request. -/
def Rule.applies (rule : Rule) (segments : List String) (head : RequestHead)
    (body : Body) : Bool :=
  rule.reaches segments &&
    (rule.constraintsFor head.method).any fun constraint => (constraint.met head body).1

/-- The decision that entries declare about a request. -/
def declaredDecision (registry : Registry) (allowed : List AllowEntry)
    (denied : List DenyEntry) (integration caller : String) (head : RequestHead)
    (body : Body) : Decision :=
  match Path.ofRequest? head.path with
  | none => .notAllowed
  | some segments =>
      match selected? (registry.rulesFor allowed integration caller)
          (registry.rulesFor allowed integration wildcardCaller) segments head.method with
      | none => .notAllowed
      | some constraint =>
          if (constraint.met head body).1 = false then .notAllowed
          else if (forbiddenFor denied integration caller ++
              forbiddenFor denied integration wildcardCaller).any fun rule =>
                rule.applies segments head body then
            .denied (.forbidden (callerKey caller) (Text.Ascii.upper head.method) head.path)
          else .allow

/-! ### Scanning prepared rules -/

section Scanning

variable {rules : List Rule} (distinct : ∀ rule ∈ rules, rule.MethodsDistinct)

include distinct

/-- A scan of prepared rules finds what the declared rules say. -/
theorem Allowlist.scan_prepare (segments : List String) (method : String) :
    Allowlist.scan segments (Text.Ascii.upper method) (rules.map Rule.prepare) =
      match firstFor rules segments method with
      | some constraint => .matched constraint
      | none => if rules.any fun rule => rule.reaches segments then .pathOnly else .nothing := by
  induction rules with
  | nil => rfl
  | cons rule rest inductionHypothesis =>
      obtain ⟨ruleDistinct, restDistinct⟩ := List.forall_mem_cons.mp distinct
      simp only [List.map_cons, scan, Rule.prepare_covers,
        Rule.get?_prepare_of_distinct ruleDistinct, inductionHypothesis restDistinct, firstFor,
        List.findSome?_cons, List.any_cons]
      by_cases reached : rule.reaches segments = true
      · simp only [reached, if_true, Bool.true_or]
        cases (rule.constraintsFor method).head? with
        | some constraint => rfl
        | none =>
            cases rest.findSome? fun rule =>
                if rule.reaches segments = true then (rule.constraintsFor method).head?
                else none with
            | some constraint => rfl
            | none => by_cases others : (rest.any fun rule => rule.reaches segments) <;>
                simp [others]
      · simp [reached]

/-- A scan of prepared rules refuses when some declared rule applies, whatever the body
went through before. -/
theorem Denylist.anyMet_prepare (segments : List String) (head : RequestHead)
    (body : Body) {seen : Body} (same : seen.look.1 = body.look.1) :
    (Denylist.anyMet head segments (Text.Ascii.upper head.method) seen
        (rules.map Rule.prepare)).1 =
      rules.any fun rule => rule.applies segments head body := by
  have alike : ∀ rule ∈ rules, rule.prepare.forbids segments (Text.Ascii.upper head.method)
      head body = rule.applies segments head body := by
    intro rule member
    have short := Rule.constraintsFor_length_le_one (distinct rule member) head.method
    rw [Rule.forbids, Rule.applies, Rule.prepare_covers,
      Rule.get?_prepare_of_distinct (distinct rule member)]
    cases declared : rule.constraintsFor head.method with
    | nil => rfl
    | cons constraint rest =>
        have alone : rest = [] := by
          rw [declared, List.length_cons] at short
          exact List.length_eq_zero_iff.mp (by omega)
        simp [alone]
  rw [anyMet_fst _ _ _ _ body same, List.any_map, Bool.eq_iff_iff, List.any_eq_true,
    List.any_eq_true]
  refine exists_congr fun rule => and_congr_right fun member => ?_
  rw [Function.comp_apply, alike rule member]

end Scanning

/-! ### Looking up installed rules -/

section Lookups

variable {registry : Registry} {allowed : List AllowEntry} {denied : List DenyEntry}

theorem Registry.rulesFor_distinct (accepted : Allowlist.BatchAccepted registry allowed)
    (distinct : registry.GeneratesDistinct allowed) (integration caller : String) :
    ∀ rule ∈ registry.rulesFor allowed integration caller, rule.MethodsDistinct := by
  intro rule member
  unfold rulesFor at member
  split at member
  · cases member
  · rename_i entry found
    have isEntry := List.mem_of_find?_eq_some found
    split at member
    · cases member
    · rename_i declared known
      have isCaller := List.mem_of_find?_eq_some known
      rcases List.mem_append.mp member with own | generated
      · have pairs := (accepted.each entry isEntry).ownDistinct declared isCaller
        exact Rule.methodsDistinct_of_mem pairs own
      · obtain ⟨use, isUse, isRule⟩ := List.mem_flatMap.mp generated
        exact distinct entry isEntry declared isCaller use isUse rule isRule

theorem forbiddenFor_distinct (accepted : Denylist.BatchAccepted denied)
    (integration caller : String) :
    ∀ rule ∈ forbiddenFor denied integration caller, rule.MethodsDistinct := by
  intro rule member
  unfold forbiddenFor at member
  split at member
  · cases member
  · rename_i entry found
    have isEntry := List.mem_of_find?_eq_some found
    split at member
    · cases member
    · rename_i declared known
      have isCaller := List.mem_of_find?_eq_some known
      have pairs := (accepted.each entry isEntry).ownDistinct declared isCaller
      exact Rule.methodsDistinct_of_mem pairs member

/-- The rules that an installed batch holds for a caller are the declared ones,
prepared. -/
theorem Allowlist.rulesOf_listOf (accepted : BatchAccepted registry allowed)
    {integration : String} {index : AllowIndex}
    (found : (listOf registry allowed).get? (integrationKey integration) = some index)
    (caller : String) :
    rulesOf index (callerKey caller) =
      (registry.rulesFor allowed integration caller).map Rule.prepare := by
  rw [get?_listOf accepted, Option.map_eq_some_iff] at found
  obtain ⟨entry, isFirst, rfl⟩ := found
  have entryAccepted := accepted.each entry (List.mem_of_find?_eq_some isFirst)
  rw [rulesOf, get?_indexOf entryAccepted, Registry.rulesFor, isFirst]
  simp only []
  cases entry.callers.find? fun declared => callerKey declared.id = callerKey caller <;> rfl

theorem Denylist.rulesOf_listOf (accepted : BatchAccepted denied) {integration : String}
    {index : DenyIndex}
    (found : (listOf denied).get? (integrationKey integration) = some index)
    (caller : String) :
    rulesOf index (callerKey caller) =
      (forbiddenFor denied integration caller).map Rule.prepare := by
  rw [get?_listOf accepted, Option.map_eq_some_iff] at found
  obtain ⟨entry, isFirst, rfl⟩ := found
  have entryAccepted := accepted.each entry (List.mem_of_find?_eq_some isFirst)
  rw [rulesOf, get?_indexOf entryAccepted, forbiddenFor, isFirst]
  simp only []
  cases entry.callers.find? fun declared => callerKey declared.id = callerKey caller <;> rfl

theorem Registry.rulesFor_of_absent (accepted : Allowlist.BatchAccepted registry allowed)
    {integration : String}
    (absent : (Allowlist.listOf registry allowed).get? (integrationKey integration) = none)
    (caller : String) : registry.rulesFor allowed integration caller = [] := by
  rw [Allowlist.get?_listOf accepted, Option.map_eq_none_iff] at absent
  rw [rulesFor, absent]

theorem forbiddenFor_of_absent (accepted : Denylist.BatchAccepted denied)
    {integration : String}
    (absent : (Denylist.listOf denied).get? (integrationKey integration) = none)
    (caller : String) : forbiddenFor denied integration caller = [] := by
  rw [Denylist.get?_listOf accepted, Option.map_eq_none_iff] at absent
  rw [forbiddenFor, absent]

/-- The constraint that an installed batch chooses is the one its entries select. -/
theorem Allowlist.find?_listOf (accepted : BatchAccepted registry allowed)
    (distinct : registry.GeneratesDistinct allowed)
    (integration caller path method : String) :
    (listOf registry allowed).find? integration caller path method =
      (Path.ofRequest? path).bind fun segments =>
        selected? (registry.rulesFor allowed integration caller)
          (registry.rulesFor allowed integration wildcardCaller) segments method := by
  unfold find?
  cases found : (listOf registry allowed).get? (integrationKey integration) with
  | none =>
      have nothing : ∀ segments, selected? [] [] segments method = none := fun _ => rfl
      simp only [Registry.rulesFor_of_absent accepted found, nothing]
      cases Path.ofRequest? path <;> rfl
  | some index =>
      cases Path.ofRequest? path with
      | none => rfl
      | some segments =>
          have own := rulesOf_listOf accepted found caller
          have shared : rulesOf index wildcardCaller =
              (registry.rulesFor allowed integration wildcardCaller).map Rule.prepare :=
            rulesOf_listOf accepted found wildcardCaller
          change choose index (callerKey caller) segments (Text.Ascii.upper method) = _
          rw [choose, own, shared,
            scan_prepare (Registry.rulesFor_distinct accepted distinct integration caller),
            scan_prepare
              (Registry.rulesFor_distinct accepted distinct integration wildcardCaller)]
          change _ = selected? _ _ segments method
          unfold selected?
          cases firstFor (registry.rulesFor allowed integration caller) segments method with
          | some constraint => rfl
          | none =>
              by_cases covered : (registry.rulesFor allowed integration caller).any fun rule =>
                  rule.reaches segments
              · simp [covered]
              · simp only [covered]
                cases firstFor (registry.rulesFor allowed integration wildcardCaller)
                    segments method with
                | some constraint => rfl
                | none =>
                    by_cases sharedCovered :
                        (registry.rulesFor allowed integration wildcardCaller).any fun rule =>
                          rule.reaches segments <;>
                      simp [sharedCovered]

/-- The installed rules that are tried for a caller are the declared ones for it and
for everyone, prepared. The wildcard itself is tried once. -/
theorem Denylist.tried_listOf (accepted : BatchAccepted denied) {integration : String}
    {index : DenyIndex}
    (found : (listOf denied).get? (integrationKey integration) = some index)
    (caller : String) :
    ∃ rules : List Rule,
      (concerned (callerKey caller)).flatMap (rulesOf index) = rules.map Rule.prepare ∧
        ∀ rule, rule ∈ rules ↔
          rule ∈ forbiddenFor denied integration caller ++
            forbiddenFor denied integration wildcardCaller := by
  have own := rulesOf_listOf accepted found caller
  have shared : rulesOf index wildcardCaller =
      (forbiddenFor denied integration wildcardCaller).map Rule.prepare :=
    rulesOf_listOf accepted found wildcardCaller
  by_cases isWildcard : callerKey caller = wildcardCaller
  · refine ⟨forbiddenFor denied integration wildcardCaller, ?_, fun rule => ?_⟩
    · simp [concerned, isWildcard, shared]
    · have same : forbiddenFor denied integration caller =
          forbiddenFor denied integration wildcardCaller := by
        rw [forbiddenFor, isWildcard]
        rfl
      simp [same]
  · refine ⟨_, ?_, fun rule => Iff.rfl⟩
    simp [concerned, isWildcard, own, shared]

/-- What an installed batch refuses on a readable path is what its entries forbid,
whatever the body went through before. -/
theorem Denylist.refusal?_listOf (accepted : BatchAccepted denied)
    (integration caller : String) (head : RequestHead) {segments : List String}
    (readable : Path.ofRequest? head.path = some segments) (body : Body) {seen : Body}
    (same : seen.look.1 = body.look.1) :
    ((listOf denied).refusal? integration caller head seen).1 =
      if (forbiddenFor denied integration caller ++
          forbiddenFor denied integration wildcardCaller).any fun rule =>
            rule.applies segments head body then
        some (.forbidden (callerKey caller) (Text.Ascii.upper head.method) head.path)
      else none := by
  unfold refusal?
  cases found : (listOf denied).get? (integrationKey integration) with
  | none => simp [forbiddenFor_of_absent accepted found]
  | some index =>
      obtain ⟨rules, tried, sameRules⟩ := tried_listOf accepted found caller
      have sameAnswer : (forbiddenFor denied integration caller ++
          forbiddenFor denied integration wildcardCaller).any (fun rule =>
            rule.applies segments head body) =
          rules.any fun rule => rule.applies segments head body := by
        rw [Bool.eq_iff_iff, List.any_eq_true, List.any_eq_true]
        simp only [sameRules]
      rw [sameAnswer]
      cases empty : index.isEmpty with
      | true =>
          have noRules : rules = [] := by
            rw [← List.map_eq_nil_iff, ← tried, List.flatMap_eq_nil_iff]
            exact fun key _ => rulesOf_of_isEmpty empty key
          simp [noRules, empty]
      | false =>
          have distinct : ∀ rule ∈ rules, rule.MethodsDistinct := by
            intro rule member
            rcases List.mem_append.mp ((sameRules rule).mp member) with isOwn | isShared
            · exact forbiddenFor_distinct accepted integration caller rule isOwn
            · exact forbiddenFor_distinct accepted integration wildcardCaller rule isShared
          have answer := anyMet_prepare distinct segments head body same
          simp only [empty, readable, tried]
          rw [← answer]
          cases outcome : anyMet head segments (Text.Ascii.upper head.method) seen
              (rules.map Rule.prepare) with
          | mk refused left => cases refused <;> rfl

end Lookups

/-! ### The decision after a replacement -/

/-- After a replacement of both lists the engine decides as the entries declare. -/
theorem Engine.authorize_reload {engine after : Engine} {allowed : List AllowEntry}
    {denied : List DenyEntry} (reloaded : engine.reload allowed denied = .ok after)
    (distinct : engine.registry.GeneratesDistinct allowed) (integration caller : String)
    (head : RequestHead) (body : Body) :
    (after.authorize integration caller head body).1 =
      declaredDecision engine.registry allowed denied integration caller head body := by
  obtain ⟨_, _, allowBuilt, denyBuilt, rfl⟩ := reload_eq_ok_iff.mp reloaded
  obtain ⟨allowAccepted, rfl⟩ := Allowlist.build_eq_ok_iff.mp allowBuilt
  obtain ⟨denyAccepted, rfl⟩ := Denylist.build_eq_ok_iff.mp denyBuilt
  unfold authorize declaredDecision
  rw [Allowlist.find?_listOf allowAccepted distinct]
  cases readable : Path.ofRequest? head.path with
  | none => rfl
  | some segments =>
      simp only [Option.bind_some]
      cases selected? (engine.registry.rulesFor allowed integration caller)
          (engine.registry.rulesFor allowed integration wildcardCaller) segments head.method with
      | none => rfl
      | some constraint =>
          have looked := constraint.look_met head body
          simp only []
          cases outcome : constraint.met head body with
          | mk isMet left =>
              rw [outcome] at looked
              cases isMet with
              | false => rfl
              | true =>
                  have refused := Denylist.refusal?_listOf denyAccepted integration caller head
                    readable body looked
                  simp only [Bool.true_eq_false, if_false]
                  cases answer : (Denylist.listOf denied).refusal? integration caller head left with
                  | mk refusal seen =>
                      rw [answer] at refused
                      by_cases forbidden : (forbiddenFor denied integration caller ++
                          forbiddenFor denied integration wildcardCaller).any fun rule =>
                            rule.applies segments head body
                      · rw [if_pos forbidden] at refused
                        cases refused
                        simp [forbidden]
                      · rw [if_neg forbidden] at refused
                        cases refused
                        simp [forbidden]

namespace ReloadSample

/-- An engine whose only capability reads below a fixed path. -/
def engine : Engine :=
  .ofRegistry (Registry.empty.register "GitHub" "read"
    (.optional [] fun _ => .ok [(Rule.onPath "/repos/**").withMethod "get" .unrestricted]))

/-- One caller with that capability. -/
def allowed : List AllowEntry :=
  [⟨" GitHub", [⟨"ci", [⟨"read", Keyed.empty⟩], []⟩]⟩]

/-- One path that nobody may read. -/
def denied : List DenyEntry :=
  [⟨"github", [⟨"", [(Rule.onPath "/repos/*/secrets").withMethod "Get" .unrestricted]⟩]⟩]

/-- A request for that path in an escaped spelling. -/
def head : RequestHead := ⟨"GET", "/repos/a/%73ecrets", none, []⟩

end ReloadSample

theorem Engine.authorize_reload_sample :
    ReloadSample.engine.registry.GeneratesDistinct ReloadSample.allowed ∧
      ∃ after, ReloadSample.engine.reload ReloadSample.allowed ReloadSample.denied = .ok after ∧
        (after.authorize "github" "ci" ReloadSample.head .empty).1 =
          .denied (.forbidden "ci" "GET" "/repos/a/%73ecrets") := by
  have distinct : ReloadSample.engine.registry.GeneratesDistinct ReloadSample.allowed := by
    decide +kernel
  have succeeds : (ReloadSample.engine.reload ReloadSample.allowed
      ReloadSample.denied).toOption.isSome = true := by
    decide +kernel
  cases reloaded : ReloadSample.engine.reload ReloadSample.allowed ReloadSample.denied with
  | error error =>
      rw [reloaded] at succeeds
      cases succeeds
  | ok after =>
      refine ⟨distinct, after, rfl, ?_⟩
      rw [authorize_reload reloaded distinct]
      decide +kernel

end CallPolicy
