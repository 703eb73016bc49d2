import CallPolicy.Engine
import CallPolicy.Proofs.Keys
import CallPolicy.Proofs.Kept

/-!
Contract: decisions about one caller, told from the rules that both lists hold for it and
for everyone.

Owns:
- the rules that each list holds for a caller of an integration;
- the decision that such rules give, and its agreement with that of the engine;
- that nothing else in the lists shows in a decision.

Does not own: how rules come into the lists.

## Why missing and empty are alike

Both lists stop at a missing integration and at a missing caller. The denylist also stops
at an integration without callers, and as soon as there are callers it refuses a path that
cannot be decoded. This refusal never shows: the allowlist has no constraint for such a
path, so the denylist is not asked.
-/

namespace CallPolicy

/-! ### Held rules -/

namespace Allowlist

/-- The rules that are held for a caller. A missing integration or caller has none. -/
def heldFor (allowlist : Allowlist) (integration caller : String) : List Rule :=
  (allowlist.rulesFor? integration caller).getD []

/-- The constraint that the rules of a caller and those for everyone choose. -/
def chooseFrom (own shared : List Rule) (segments : List String) (method : String) :
    Option Constraint :=
  match scan segments method own with
  | .matched constraint => some constraint
  | .pathOnly => none
  | .nothing =>
      match scan segments method shared with
      | .matched constraint => some constraint
      | _ => none

theorem heldFor_of_absent {allowlist : Allowlist} {integration : String}
    (absent : allowlist.get? (integrationKey integration) = none) (caller : String) :
    allowlist.heldFor integration caller = [] := by
  rw [heldFor, rulesFor?, absent]
  rfl

theorem heldFor_of_get? {allowlist : Allowlist} {integration : String} {index : AllowIndex}
    (found : allowlist.get? (integrationKey integration) = some index) (caller : String) :
    allowlist.heldFor integration caller = rulesOf index (callerKey caller) := by
  rw [heldFor, rulesFor?, found, rulesOf, Option.bind_some]
  cases index.get? (callerKey caller) <;> rfl

theorem find?_eq (allowlist : Allowlist) (integration caller path method : String) :
    allowlist.find? integration caller path method =
      (Path.ofRequest? path).bind fun segments =>
        chooseFrom (allowlist.heldFor integration caller)
          (allowlist.heldFor integration wildcardCaller) segments (Text.Ascii.upper method) := by
  unfold find?
  cases found : allowlist.get? (integrationKey integration) with
  | none =>
      simp only [heldFor_of_absent found]
      cases Path.ofRequest? path <;> rfl
  | some index =>
      simp only [heldFor_of_get? found]
      rfl

end Allowlist

namespace Denylist

/-- The rules that are held against a caller. A missing integration or caller has none. -/
def heldFor (denylist : Denylist) (integration caller : String) : List Rule :=
  ((denylist.get? (integrationKey integration)).map fun index =>
    rulesOf index (callerKey caller)).getD []

/-- The rules that are tried for a caller: those held against it, then those against
everyone. -/
def triedFor (denylist : Denylist) (integration caller : String) : List Rule :=
  (concerned (callerKey caller)).flatMap (denylist.heldFor integration)

theorem heldFor_of_absent {denylist : Denylist} {integration : String}
    (absent : denylist.get? (integrationKey integration) = none) (caller : String) :
    denylist.heldFor integration caller = [] := by
  rw [heldFor, absent]
  rfl

theorem heldFor_of_get? {denylist : Denylist} {integration : String} {index : DenyIndex}
    (found : denylist.get? (integrationKey integration) = some index) (caller : String) :
    denylist.heldFor integration caller = rulesOf index (callerKey caller) := by
  rw [heldFor, found]
  rfl

theorem heldFor_callerKey (denylist : Denylist) (integration caller : String) :
    denylist.heldFor integration (callerKey caller) = denylist.heldFor integration caller := by
  rw [heldFor, callerKey_callerKey]
  rfl

/-- The wildcard itself is tried once. -/
theorem triedFor_eq (denylist : Denylist) (integration caller : String) :
    denylist.triedFor integration caller =
      if callerKey caller = wildcardCaller then denylist.heldFor integration caller
      else denylist.heldFor integration caller ++
        denylist.heldFor integration wildcardCaller := by
  unfold triedFor concerned
  split <;> simp [heldFor_callerKey]

theorem triedFor_of_absent {denylist : Denylist} {integration : String}
    (absent : denylist.get? (integrationKey integration) = none) (caller : String) :
    denylist.triedFor integration caller = [] := by
  simp [triedFor_eq, heldFor_of_absent absent]

theorem triedFor_of_get? {denylist : Denylist} {integration : String} {index : DenyIndex}
    (found : denylist.get? (integrationKey integration) = some index) (caller : String) :
    denylist.triedFor integration caller =
      (concerned (callerKey caller)).flatMap (rulesOf index) := by
  have wildcard : callerKey wildcardCaller = wildcardCaller := rfl
  rw [triedFor_eq, concerned, heldFor_of_get? found, heldFor_of_get? found, wildcard]
  split <;> simp

/-- On a readable path the tried rules alone decide about a refusal. -/
theorem refusal?_eq (denylist : Denylist) (integration caller : String) (head : RequestHead)
    (body : Body) {segments : List String}
    (readable : Path.ofRequest? head.path = some segments) :
    denylist.refusal? integration caller head body =
      match anyMet head segments (Text.Ascii.upper head.method) body
          (denylist.triedFor integration caller) with
      | (true, looked) =>
          (some (.forbidden (callerKey caller) (Text.Ascii.upper head.method) head.path), looked)
      | (false, looked) => (none, looked) := by
  unfold refusal?
  cases found : denylist.get? (integrationKey integration) with
  | none =>
      rw [triedFor_of_absent found]
      rfl
  | some index =>
      rw [triedFor_of_get? found]
      cases empty : index.isEmpty with
      | true =>
          have nothing : (concerned (callerKey caller)).flatMap (rulesOf index) = [] :=
            List.flatMap_eq_nil_iff.mpr fun key _ => rulesOf_of_isEmpty empty key
          simp only [empty, nothing]
          rfl
      | false =>
          simp only [empty, readable]
          rfl

end Denylist

/-! ### Decisions -/

/-- The decision that rules give which are held for a caller, for everyone, and against
the caller. -/
def decisionOf (own shared denied : List Rule) (caller : String) (head : RequestHead)
    (body : Body) : Decision × Body :=
  match Path.ofRequest? head.path with
  | none => (.notAllowed, body)
  | some segments =>
      match Allowlist.chooseFrom own shared segments (Text.Ascii.upper head.method) with
      | none => (.notAllowed, body)
      | some constraint =>
          match constraint.met head body with
          | (false, looked) => (.notAllowed, looked)
          | (true, looked) =>
              match Denylist.anyMet head segments (Text.Ascii.upper head.method) looked denied with
              | (true, seen) => (.denied (.forbidden (callerKey caller)
                  (Text.Ascii.upper head.method) head.path), seen)
              | (false, seen) => (.allow, seen)

namespace Engine

/-- The engine decides by the rules that its lists hold for the caller and for everyone. -/
theorem authorize_eq (engine : Engine) (integration caller : String) (head : RequestHead)
    (body : Body) :
    engine.authorize integration caller head body =
      decisionOf (engine.allowlist.heldFor integration caller)
        (engine.allowlist.heldFor integration wildcardCaller)
        (engine.denylist.triedFor integration caller) caller head body := by
  unfold authorize decisionOf
  rw [Allowlist.find?_eq]
  cases readable : Path.ofRequest? head.path with
  | none => rfl
  | some segments =>
      simp only [Option.bind_some]
      cases Allowlist.chooseFrom (engine.allowlist.heldFor integration caller)
          (engine.allowlist.heldFor integration wildcardCaller) segments
          (Text.Ascii.upper head.method) with
      | none => rfl
      | some constraint =>
          simp only [Denylist.refusal?_eq _ _ _ _ _ readable]
          cases constraint.met head body with
          | mk isMet looked =>
              cases isMet with
              | false => rfl
              | true =>
                  simp only []
                  cases Denylist.anyMet head segments (Text.Ascii.upper head.method) looked
                      (engine.denylist.triedFor integration caller) with
                  | mk refused seen => cases refused <;> rfl

/-- Engines that hold the same rules for a caller and for everyone, in one integration,
decide alike about that caller there, whatever else their lists hold. -/
theorem authorize_isolated {left right : Engine} {integration caller : String}
    (allowedOwn : left.allowlist.heldFor integration caller =
      right.allowlist.heldFor integration caller)
    (allowedShared : left.allowlist.heldFor integration wildcardCaller =
      right.allowlist.heldFor integration wildcardCaller)
    (deniedOwn : left.denylist.heldFor integration caller =
      right.denylist.heldFor integration caller)
    (deniedShared : left.denylist.heldFor integration wildcardCaller =
      right.denylist.heldFor integration wildcardCaller)
    (head : RequestHead) (body : Body) :
    left.authorize integration caller head body =
      right.authorize integration caller head body := by
  have tried : left.denylist.triedFor integration caller =
      right.denylist.triedFor integration caller := by
    rw [Denylist.triedFor_eq, Denylist.triedFor_eq, deniedOwn, deniedShared]
  rw [authorize_eq, authorize_eq, allowedOwn, allowedShared, tried]

end Engine

namespace IsolationSample

/-- A rule that covers one path for one method. -/
def rule (path : String) : Rule := (Rule.onPath path).withMethod "GET" .unrestricted

/-- An engine with a single caller. -/
def alone : Engine :=
  ((Engine.ofRegistry Registry.empty).calls
    [.setAllowed "github" [⟨"ci", [], [rule "/repos/**"]⟩],
      .setDenied "github" [⟨"ci", [rule "/repos/secret"]⟩]]).2

/-- An engine with the same caller, with another one, with an empty entry for everyone,
and with another integration. -/
def among : Engine :=
  ((Engine.ofRegistry Registry.empty).calls
    [.setAllowed "GitHub" [⟨"other", [], [rule "/**"]⟩, ⟨"ci", [], [rule "/repos/**"]⟩],
      .setDenied "github" [⟨"", []⟩, ⟨"other", [rule "/**"]⟩, ⟨"ci", [rule "/repos/secret"]⟩],
      .setAllowed "gitlab" [⟨"ci", [], [rule "/**"]⟩],
      .setDenied "gitlab" [⟨"ci", [rule "/**"]⟩]]).2

/-- A request that the caller may not make. -/
def head : RequestHead := ⟨"get", "/repos/secret", none, []⟩

end IsolationSample

open IsolationSample in
theorem Engine.authorize_isolated_sample :
    alone.denylist.get? "github" ≠ among.denylist.get? "github" ∧
      alone.authorize "github" "ci" head .empty = among.authorize "github" "ci" head .empty ∧
      (alone.authorize "github" "ci" head .empty).1 =
        .denied (.forbidden "ci" "GET" "/repos/secret") := by
  have allowedOwn : alone.allowlist.heldFor "github" "ci" =
      among.allowlist.heldFor "github" "ci" := by decide +kernel
  have allowedShared : alone.allowlist.heldFor "github" wildcardCaller =
      among.allowlist.heldFor "github" wildcardCaller := by decide +kernel
  have deniedOwn : alone.denylist.heldFor "github" "ci" =
      among.denylist.heldFor "github" "ci" := by decide +kernel
  have deniedShared : alone.denylist.heldFor "github" wildcardCaller =
      among.denylist.heldFor "github" wildcardCaller := by decide +kernel
  exact ⟨by decide +kernel,
    authorize_isolated allowedOwn allowedShared deniedOwn deniedShared head .empty,
    by decide +kernel⟩

end CallPolicy
