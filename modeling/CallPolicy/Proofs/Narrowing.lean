import CallPolicy.Proofs.Evaluation
import CallPolicy.Proofs.Rearranged

/-!
Contract: what a denylist can change about a decision.

Owns:
- the decision under a denylist, told from the decision under the empty one;
- that more held rules refuse more, and that their order does not show;
- that a refusal tells nothing of the rule that it comes from.

Does not own: which requests the allowlist grants.
-/

namespace CallPolicy

/-! ### Decisions under a denylist -/

/-- Whether a stored rule stops the request, on a path that can be decoded. -/
def Rule.stops (rule : Rule) (head : RequestHead) (body : Body) : Bool :=
  (Path.ofRequest? head.path).any fun segments =>
    rule.forbids segments (Text.Ascii.upper head.method) head body

/-- The refusal that a request of a caller is answered with. -/
def Refusal.ofRequest (caller : String) (head : RequestHead) : Refusal :=
  .forbidden (callerKey caller) (Text.Ascii.upper head.method) head.path

namespace Denylist

/-- The rules that are held for a caller and for everyone are among those of another
denylist. -/
structure Within (left right : Denylist) (integration caller : String) : Prop where
  own : left.heldFor integration caller ⊆ right.heldFor integration caller
  shared : left.heldFor integration wildcardCaller ⊆ right.heldFor integration wildcardCaller

theorem mem_triedFor {denylist : Denylist} {integration caller : String} {rule : Rule} :
    rule ∈ denylist.triedFor integration caller ↔
      rule ∈ denylist.heldFor integration caller ∨
        rule ∈ denylist.heldFor integration wildcardCaller := by
  rw [triedFor_eq]
  split
  · rename_i isWildcard
    rw [← isWildcard, heldFor_callerKey, or_self]
  · exact List.mem_append

theorem Within.triedFor {left right : Denylist} {integration caller : String}
    (within : left.Within right integration caller) :
    left.triedFor integration caller ⊆ right.triedFor integration caller := by
  intro rule tried
  rw [mem_triedFor] at tried ⊢
  exact tried.imp (fun held => within.own held) (fun held => within.shared held)

end Denylist

namespace Engine

/-- Whether the allowlist has a constraint for the request that the request meets. -/
def grants (engine : Engine) (integration caller : String) (head : RequestHead)
    (body : Body) : Bool :=
  (engine.allowlist.find? integration caller head.path head.method).any fun constraint =>
    (constraint.met head body).1

/-- A request is allowed when it is granted and no tried rule stops it. -/
theorem authorize_fst (engine : Engine) (integration caller : String) (head : RequestHead)
    (body : Body) :
    (engine.authorize integration caller head body).1 =
      if engine.grants integration caller head body then
        if (engine.denylist.triedFor integration caller).any fun rule => rule.stops head body then
          .denied (.ofRequest caller head)
        else .allow
      else .notAllowed := by
  rw [authorize]
  cases found : engine.allowlist.find? integration caller head.path head.method with
  | none =>
      have withheld : engine.grants integration caller head body = false := by
        rw [grants, found, Option.any_none]
      rw [withheld]
      rfl
  | some constraint =>
      have granted : engine.grants integration caller head body =
          (constraint.met head body).1 := by
        rw [grants, found, Option.any_some]
      rw [Allowlist.find?_eq, Option.bind_eq_some_iff] at found
      obtain ⟨segments, readable, _⟩ := found
      have looked := constraint.look_met head body
      rw [granted]
      simp only []
      cases outcome : constraint.met head body with
      | mk isMet left =>
          rw [outcome] at looked
          cases isMet with
          | false => rfl
          | true =>
              have refused : (engine.denylist.triedFor integration caller).any
                  (fun rule => rule.stops head body) =
                    (Denylist.anyMet head segments (Text.Ascii.upper head.method) left
                      (engine.denylist.triedFor integration caller)).1 := by
                simp only [Denylist.anyMet_fst _ _ _ _ body looked, Rule.stops, readable,
                  Option.any_some]
              rw [refused]
              simp only [Denylist.refusal?_eq _ _ _ _ _ readable]
              cases Denylist.anyMet head segments (Text.Ascii.upper head.method) left
                  (engine.denylist.triedFor integration caller) with
              | mk answer seen => cases answer <;> rfl

section Outcomes

variable {engine : Engine} {integration caller : String} {head : RequestHead} {body : Body}

theorem authorize_eq_notAllowed_iff :
    (engine.authorize integration caller head body).1 = .notAllowed ↔
      engine.grants integration caller head body = false := by
  rw [authorize_fst]
  cases engine.grants integration caller head body with
  | false => simp
  | true => simp [ite_eq_iff]

theorem authorize_eq_denied_iff {refusal : Refusal} :
    (engine.authorize integration caller head body).1 = .denied refusal ↔
      engine.grants integration caller head body = true ∧
        (∃ rule ∈ engine.denylist.triedFor integration caller, rule.stops head body = true) ∧
          refusal = .ofRequest caller head := by
  rw [authorize_fst, ← List.any_eq_true]
  cases engine.grants integration caller head body with
  | false => simp
  | true =>
      cases (engine.denylist.triedFor integration caller).any fun rule => rule.stops head body with
      | false => simp
      | true => simp [eq_comm]

theorem authorize_eq_allow_iff :
    (engine.authorize integration caller head body).1 = .allow ↔
      engine.grants integration caller head body = true ∧
        ∀ rule ∈ engine.denylist.triedFor integration caller, rule.stops head body = false := by
  rw [authorize_fst]
  cases engine.grants integration caller head body with
  | false => simp
  | true => simp

end Outcomes

/-! ### Other denylists -/

/-- The decision about a request under another denylist. -/
def decisionUnder (engine : Engine) (denylist : Denylist) (integration caller : String)
    (head : RequestHead) (body : Body) : Decision :=
  ({ engine with denylist }.authorize integration caller head body).1

section Denylists

variable (engine : Engine) {integration caller : String} {head : RequestHead} {body : Body}

theorem decisionUnder_eq_notAllowed_iff (denylist : Denylist) :
    engine.decisionUnder denylist integration caller head body = .notAllowed ↔
      engine.grants integration caller head body = false :=
  authorize_eq_notAllowed_iff

/-- The empty denylist leaves what is granted as it is. -/
theorem decisionUnder_empty
    (granted : engine.grants integration caller head body = true) :
    engine.decisionUnder Keyed.empty integration caller head body = .allow := by
  have nothing : Denylist.triedFor Keyed.empty integration caller = [] :=
    Denylist.triedFor_of_absent (Keyed.get?_empty _) caller
  refine authorize_eq_allow_iff.mpr ⟨granted, fun rule tried => ?_⟩
  change rule ∈ Denylist.triedFor Keyed.empty integration caller at tried
  rw [nothing] at tried
  cases tried

/-- A refusal stays when no held rule is taken away. -/
theorem decisionUnder_eq_denied_of_within {left right : Denylist}
    (within : left.Within right integration caller) {refusal : Refusal}
    (denied : engine.decisionUnder left integration caller head body = .denied refusal) :
    engine.decisionUnder right integration caller head body = .denied refusal := by
  obtain ⟨granted, ⟨rule, tried, stops⟩, rfl⟩ := authorize_eq_denied_iff.mp denied
  exact authorize_eq_denied_iff.mpr ⟨granted, ⟨rule, within.triedFor tried, stops⟩, rfl⟩

theorem decisionUnder_congr {left right : Denylist} (alike : left.HoldsAlike right)
    (integration caller : String) (head : RequestHead) (body : Body) :
    engine.decisionUnder left integration caller head body =
      engine.decisionUnder right integration caller head body := by
  have tried : (left.triedFor integration caller).any (fun rule => rule.stops head body) =
      (right.triedFor integration caller).any fun rule => rule.stops head body := by
    rw [Bool.eq_iff_iff, List.any_eq_true, List.any_eq_true]
    simp only [Denylist.mem_triedFor, alike integration _ _]
  rw [decisionUnder, decisionUnder, authorize_fst, authorize_fst, tried]
  rfl

end Denylists

/-- A denylist only narrows what the allowlist grants, and only the set of its rules
matters. What is not allowed is not allowed under any denylist, and what is denied would
be allowed without one. A refusal stays as it is when rules are added. Callers and entries
in another order are accepted alike and give the same decisions. Two refusals of the same
caller, method and path are equal, wherever they come from. -/
theorem denylist_narrows (engine : Engine) (integration caller : String) (head : RequestHead)
    (body : Body) :
    (∀ denylist : Denylist,
        (engine.decisionUnder denylist integration caller head body = .notAllowed ↔
            engine.decisionUnder Keyed.empty integration caller head body = .notAllowed) ∧
          ∀ refusal,
            engine.decisionUnder denylist integration caller head body = .denied refusal →
              engine.decisionUnder Keyed.empty integration caller head body = .allow) ∧
      (∀ left right : Denylist, left.Within right integration caller → ∀ refusal,
        engine.decisionUnder left integration caller head body = .denied refusal →
          engine.decisionUnder right integration caller head body = .denied refusal) ∧
      (∀ entries reordered : List DenyEntry, Rearranged DenyEntry.Reordered entries reordered →
        ∀ left, Denylist.build entries = .ok left →
          ∃ right, Denylist.build reordered = .ok right ∧
            engine.decisionUnder right integration caller head body =
              engine.decisionUnder left integration caller head body) ∧
      (∀ (denylist : Denylist) (name : String) (callers reordered : List DenyCaller),
        Rearranged DenyCaller.Reordered callers reordered →
          ∀ left, denylist.set name callers = .ok left →
            ∃ right, denylist.set name reordered = .ok right ∧
              engine.decisionUnder right integration caller head body =
                engine.decisionUnder left integration caller head body) ∧
      ∀ (other : Engine) (otherIntegration otherCaller : String) (otherHead : RequestHead)
        (otherBody : Body), callerKey otherCaller = callerKey caller →
          Text.Ascii.upper otherHead.method = Text.Ascii.upper head.method →
            otherHead.path = head.path → ∀ refusal otherRefusal,
              (engine.authorize integration caller head body).1 = .denied refusal →
                (other.authorize otherIntegration otherCaller otherHead otherBody).1 =
                    .denied otherRefusal →
                  otherRefusal = refusal := by
  refine ⟨fun denylist => ⟨?_, ?_⟩, ?_, ?_, ?_, ?_⟩
  · exact (engine.decisionUnder_eq_notAllowed_iff denylist).trans
      (engine.decisionUnder_eq_notAllowed_iff Keyed.empty).symm
  · intro refusal denied
    obtain ⟨granted, _⟩ := authorize_eq_denied_iff.mp denied
    exact engine.decisionUnder_empty granted
  · intro left right within refusal denied
    exact engine.decisionUnder_eq_denied_of_within within denied
  · intro entries reordered rearranged left built
    obtain ⟨right, rebuilt, alike⟩ := Denylist.build_rearranged rearranged built
    exact ⟨right, rebuilt, engine.decisionUnder_congr alike integration caller head body⟩
  · intro denylist name callers reordered rearranged left succeeded
    obtain ⟨right, again, alike⟩ := Denylist.set_rearranged rearranged succeeded
    exact ⟨right, again, engine.decisionUnder_congr alike integration caller head body⟩
  · intro other otherIntegration otherCaller otherHead otherBody sameCaller sameMethod samePath
      refusal otherRefusal denied otherDenied
    obtain ⟨_, _, rfl⟩ := authorize_eq_denied_iff.mp denied
    obtain ⟨_, _, rfl⟩ := authorize_eq_denied_iff.mp otherDenied
    rw [Refusal.ofRequest, Refusal.ofRequest, sameCaller, sameMethod, samePath]

end Engine

namespace NarrowingSample

/-- A rule that covers one path for reading. -/
def rule (path : String) : Rule := (Rule.onPath path).withMethod "GET" .unrestricted

/-- An engine in which one caller may read everything. -/
def engine : Engine :=
  ((Engine.ofRegistry Registry.empty).call
    (.setAllowed "github" [⟨"ci", [], [rule "/**"]⟩])).2

/-- What is denied to that caller, and to everyone. -/
def denied : List DenyEntry :=
  [⟨"github", [⟨"ci", [rule "/repos/secret", rule "/keys"]⟩, ⟨"*", [rule "/admin"]⟩]⟩]

/-- The same in another order. -/
def reordered : List DenyEntry :=
  [⟨"github", [⟨"*", [rule "/admin"]⟩, ⟨"ci", [rule "/keys", rule "/repos/secret"]⟩]⟩]

/-- The denylist of entries that are accepted. -/
def listed (entries : List DenyEntry) : Denylist :=
  ((Engine.ofRegistry Registry.empty).call (.buildDenied entries)).2.denylist

/-- More is denied than before. -/
def wide : Denylist :=
  listed [⟨"gitlab", []⟩, ⟨"github", [⟨"other", []⟩, ⟨"*", [rule "/admin"]⟩,
    ⟨"ci", [rule "/users", rule "/keys", rule "/repos/secret"]⟩]⟩]

/-- A request that is denied. -/
def head : RequestHead := ⟨"get", "/repos/secret", none, []⟩

/-- The same request in another spelling and with a query. -/
def paged : RequestHead := ⟨"GET", "/repos/secret", some "page=2", []⟩

theorem rearranged : Rearranged DenyEntry.Reordered denied reordered := by
  have callers : Rearranged DenyCaller.Reordered
      [⟨"ci", [rule "/repos/secret", rule "/keys"]⟩, ⟨"*", [rule "/admin"]⟩]
      [⟨"*", [rule "/admin"]⟩, ⟨"ci", [rule "/keys", rule "/repos/secret"]⟩] := by
    refine ⟨[(⟨"ci", [rule "/repos/secret", rule "/keys"]⟩,
      ⟨"ci", [rule "/keys", rule "/repos/secret"]⟩),
      (⟨"*", [rule "/admin"]⟩, ⟨"*", [rule "/admin"]⟩)], .refl _, .swap _ _ _, ?_⟩
    exact List.forall_mem_cons.mpr
      ⟨⟨rfl, .swap _ _ _⟩, List.forall_mem_singleton.mpr ⟨rfl, .refl _⟩⟩
  exact ⟨denied.zip reordered, .refl _, .refl _,
    List.forall_mem_singleton.mpr ⟨rfl, callers⟩⟩

end NarrowingSample

open NarrowingSample in
theorem Engine.denylist_narrows_sample :
    engine.decisionUnder Keyed.empty "github" "ci" head .empty = .allow ∧
      engine.decisionUnder wide "github" "ci" head .empty =
        .denied (.forbidden "ci" "GET" "/repos/secret") ∧
      (∃ after, Denylist.build reordered = .ok after ∧
        engine.decisionUnder after "github" "ci" head .empty =
          .denied (.forbidden "ci" "GET" "/repos/secret")) ∧
      ∃ refusal, engine.decisionUnder wide "GitHub" "ci" paged .empty = .denied refusal ∧
        refusal = .forbidden "ci" "GET" "/repos/secret" := by
  obtain ⟨narrows, more, batches, _, _⟩ := denylist_narrows engine "github" "ci" head .empty
  have refused : engine.decisionUnder (listed denied) "github" "ci" head .empty =
      .denied (.forbidden "ci" "GET" "/repos/secret") := by decide +kernel
  have within : (listed denied).Within wide "github" "ci" :=
    ⟨by decide +kernel, by decide +kernel⟩
  have built : Denylist.build denied = .ok (listed denied) := by decide +kernel
  obtain ⟨after, rebuilt, same⟩ := batches denied reordered rearranged _ built
  have pagedRefused : engine.decisionUnder wide "GitHub" "ci" paged .empty =
      .denied (.forbidden "ci" "GET" "/repos/secret") := by decide +kernel
  obtain ⟨_, _, _, _, unique⟩ :=
    denylist_narrows { engine with denylist := listed denied } "github" "ci" head .empty
  have equal := unique { engine with denylist := wide } "GitHub" "ci" paged .empty rfl
    (by decide) rfl _ _ refused pagedRefused
  exact ⟨(narrows (listed denied)).2 _ refused, more _ _ within _ refused,
    ⟨after, rebuilt, same.trans refused⟩, ⟨_, pagedRefused, equal⟩⟩

end CallPolicy
