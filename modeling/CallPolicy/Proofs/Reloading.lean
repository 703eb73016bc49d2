import CallPolicy.Proofs.Narrowing
import CallPolicy.Proofs.Reachable

/-!
Contract: decisions that are taken while both lists are being replaced.

Owns:
- a replacement and a decision that run side by side, step by step;
- the decisions that such a run can end with;
- when one of them allows a request that neither the old nor the new policy allows.

Does not own: replacements that fail, which write nothing.

## Mixtures

A replacement writes the allowlist first and the denylist after it. A decision reads the
allowlist first and the denylist after it. Each list is seen whole, but the two that are seen
together may come from different policies: the new allowlist with the old denylist between
the writes, and the old allowlist with the new denylist where both writes fall between the
reads.
-/

namespace CallPolicy

namespace Engine

/-! ### Mixtures -/

/-- The engine with the allowlist of one policy and the denylist of another. -/
def mixed (allowing denying : Engine) : Engine :=
  { allowing with denylist := denying.denylist }

/-- The mixture allows a request that neither policy allows. -/
def Exposes (allowing denying : Engine) (integration caller : String) (head : RequestHead)
    (body : Body) : Prop :=
  ((allowing.mixed denying).authorize integration caller head body).1 = .allow ∧
    (allowing.authorize integration caller head body).1 ≠ .allow ∧
      (denying.authorize integration caller head body).1 ≠ .allow

section Requests

variable {allowing denying : Engine} {integration caller : String} {head : RequestHead}
  {body : Body}

/-- A mixture allows what one policy grants and the other does not stop. -/
theorem mixed_allows_iff :
    ((allowing.mixed denying).authorize integration caller head body).1 = .allow ↔
      allowing.grants integration caller head body = true ∧
        ∀ rule ∈ denying.denylist.triedFor integration caller, rule.stops head body = false :=
  authorize_eq_allow_iff

/-- A request is exposed when the policy of the allowlist denies it, the policy of the
denylist does not allow it, and no rule of that denylist stops it. -/
theorem exposes_iff :
    allowing.Exposes denying integration caller head body ↔
      (∃ refusal, (allowing.authorize integration caller head body).1 = .denied refusal) ∧
        (denying.authorize integration caller head body).1 = .notAllowed ∧
          ∀ rule ∈ denying.denylist.triedFor integration caller,
            rule.stops head body = false := by
  rw [Exposes, mixed_allows_iff]
  constructor
  · rintro ⟨⟨granted, unstopped⟩, notAllowing, notDenying⟩
    refine ⟨?_, ?_, unstopped⟩
    · cases decision : (allowing.authorize integration caller head body).1 with
      | allow => exact absurd decision notAllowing
      | notAllowed =>
          rw [authorize_eq_notAllowed_iff, granted] at decision
          cases decision
      | denied refusal => exact ⟨refusal, rfl⟩
    · -- The other policy refuses nothing here, so it can only fail to grant the request.
      rw [authorize_eq_notAllowed_iff]
      by_contra grants
      exact notDenying (authorize_eq_allow_iff.mpr ⟨by simpa using grants, unstopped⟩)
  · rintro ⟨⟨refusal, isDenied⟩, notAllowed, unstopped⟩
    obtain ⟨granted, _, _⟩ := authorize_eq_denied_iff.mp isDenied
    exact ⟨⟨granted, unstopped⟩, by simp [isDenied], by simp [notAllowed]⟩

end Requests

end Engine

/-! ### A replacement and a decision side by side -/

/-- How far a decision has come: not begun, with the allowlist that it has read, or taken. -/
inductive Overlap.Progress where
  | waiting
  | holding (allowlist : Allowlist)
  | decided (decision : Decision)

/-- An engine on which a replacement and a decision are under way: what it holds, the writes
that are still to be made, and how far the decision has come. -/
structure Overlap where
  engine : Engine
  writes : List (Change Unit)
  progress : Overlap.Progress

namespace Overlap

/-- One step of either side. The decision reads the allowlist, and then takes what it has
read together with the denylist of that moment. -/
inductive Step (integration caller : String) (head : RequestHead) (body : Body) :
    Overlap → Overlap → Prop
  | write {engine after : Engine} {write : Change Unit} {rest : List (Change Unit)}
      {progress : Progress} (written : write.run engine = .ok () after) :
      Step integration caller head body ⟨engine, write :: rest, progress⟩ ⟨after, rest, progress⟩
  | read {engine : Engine} {writes : List (Change Unit)} :
      Step integration caller head body ⟨engine, writes, .waiting⟩
        ⟨engine, writes, .holding engine.allowlist⟩
  | decide {engine : Engine} {writes : List (Change Unit)} {allowlist : Allowlist} :
      Step integration caller head body ⟨engine, writes, .holding allowlist⟩
        ⟨engine, writes,
          .decided ({ engine with allowlist }.authorize integration caller head body).1⟩

/-- The writes of a replacement that has built both lists, in their order. -/
def writesOf (allowlist : Allowlist) (denylist : Denylist) : List (Change Unit) :=
  [Change.replaceAllowlist allowlist, Change.replaceDenylist denylist]

/-- Neither side has begun. The replacement will leave the lists of another engine. -/
def start (old new : Engine) : Overlap :=
  ⟨old, writesOf new.allowlist new.denylist, .waiting⟩

/-- The decision is met: some run of both sides ends with it. -/
def Meets (old new : Engine) (integration caller : String) (head : RequestHead) (body : Body)
    (decision : Decision) : Prop :=
  ∃ last, Relation.ReflTransGen (Step integration caller head body) (start old new) last ∧
    last.progress = .decided decision

/-- The engine whose lists come from one of two policies each. -/
inductive Mixture (old new : Engine) : Engine → Prop
  | old : Mixture old new old
  | new : Mixture old new new
  | between : Mixture old new (new.mixed old)
  | across : Mixture old new (old.mixed new)

/-- What holds during a run: where the writes stand, and that the decision, as far as it has
come, is that of a mixture. -/
structure Underway (old new : Engine) (integration caller : String) (head : RequestHead)
    (body : Body) (overlap : Overlap) : Prop where
  writes : (overlap.engine = old ∧ overlap.writes = (start old new).writes) ∨
    (overlap.engine = new.mixed old ∧
      overlap.writes = [Change.replaceDenylist new.denylist]) ∨
    (overlap.engine = new ∧ overlap.writes = [])
  holding : ∀ allowlist, overlap.progress = .holding allowlist →
    allowlist = old.allowlist ∨ allowlist = new.allowlist
  decided : ∀ decision, overlap.progress = .decided decision →
    ∃ engine, Mixture old new engine ∧
      (engine.authorize integration caller head body).1 = decision

section Runs

variable {old new : Engine} {integration caller : String} {head : RequestHead} {body : Body}

/-- A decision that holds the allowlist of one policy, taken at any moment, is that of a
mixture. -/
theorem Underway.mixture {overlap : Overlap} (registry : new.registry = old.registry)
    (underway : Underway old new integration caller head body overlap) {allowlist : Allowlist}
    (held : allowlist = old.allowlist ∨ allowlist = new.allowlist) :
    Mixture old new { overlap.engine with allowlist } := by
  obtain ⟨oldRegistry, oldAllowlist, oldDenylist⟩ := old
  obtain ⟨newRegistry, newAllowlist, newDenylist⟩ := new
  obtain rfl : newRegistry = oldRegistry := registry
  rcases held with rfl | rfl
  · rcases underway.writes with ⟨isEngine, _⟩ | ⟨isEngine, _⟩ | ⟨isEngine, _⟩
    · rw [isEngine]; exact .old
    · rw [isEngine]; exact .old
    · rw [isEngine]; exact .across
  · rcases underway.writes with ⟨isEngine, _⟩ | ⟨isEngine, _⟩ | ⟨isEngine, _⟩
    · rw [isEngine]; exact .between
    · rw [isEngine]; exact .between
    · rw [isEngine]; exact .new

theorem Underway.step {before after : Overlap} (registry : new.registry = old.registry)
    (underway : Underway old new integration caller head body before)
    (step : Step integration caller head body before after) :
    Underway old new integration caller head body after := by
  cases step with
  | @write engine _ write rest progress written =>
      -- A write moves the replacement on. What the decision has read and taken stays.
      refine ⟨?_, underway.holding, underway.decided⟩
      rcases underway.writes with ⟨isEngine, isWrites⟩ | ⟨isEngine, isWrites⟩ | ⟨_, isWrites⟩
      · change engine = old at isEngine
        obtain ⟨rfl, rfl⟩ := List.cons.inj isWrites
        cases written
        refine .inr (.inl ⟨?_, rfl⟩)
        change { engine with allowlist := new.allowlist } = new.mixed old
        rw [isEngine, Engine.mixed, registry]
      · change engine = new.mixed old at isEngine
        obtain ⟨rfl, rfl⟩ := List.cons.inj isWrites
        cases written
        refine .inr (.inr ⟨?_, rfl⟩)
        change { engine with denylist := new.denylist } = new
        rw [isEngine]
        rfl
      · cases isWrites
  | @read engine writes =>
      -- The allowlist is the new one as soon as the first write is made.
      refine ⟨underway.writes, fun allowlist held => ?_, fun _ undecided => (nomatch undecided)⟩
      obtain rfl : engine.allowlist = allowlist := Progress.holding.inj held
      rcases underway.writes with ⟨rfl, _⟩ | ⟨rfl, _⟩ | ⟨rfl, _⟩
      · exact .inl rfl
      · exact .inr rfl
      · exact .inr rfl
  | @decide engine writes allowlist =>
      refine ⟨underway.writes, fun _ taken => (nomatch taken), fun decision taken => ?_⟩
      exact ⟨_, underway.mixture registry (underway.holding _ rfl), Progress.decided.inj taken⟩

theorem underway_start : Underway old new integration caller head body (start old new) :=
  ⟨.inl ⟨rfl, rfl⟩, fun _ idle => (nomatch idle), fun _ idle => (nomatch idle)⟩

theorem Meets.mixture (registry : new.registry = old.registry) {decision : Decision}
    (meets : Meets old new integration caller head body decision) :
    ∃ engine, Mixture old new engine ∧
      (engine.authorize integration caller head body).1 = decision := by
  obtain ⟨last, run, taken⟩ := meets
  have underway : Underway old new integration caller head body last := by
    clear taken
    induction run with
    | refl => exact underway_start
    | tail _ step inductionHypothesis => exact inductionHypothesis.step registry step
  exact underway.decided decision taken

theorem Mixture.meets (registry : new.registry = old.registry) {engine : Engine}
    (mixture : Mixture old new engine) :
    Meets old new integration caller head body
      (engine.authorize integration caller head body).1 := by
  obtain ⟨oldRegistry, oldAllowlist, oldDenylist⟩ := old
  obtain ⟨newRegistry, newAllowlist, newDenylist⟩ := new
  obtain rfl : newRegistry = oldRegistry := registry
  -- One run for each mixture: before both writes, after them, between them, and around them.
  cases mixture with
  | old => exact ⟨_, .tail (.single .read) .decide, rfl⟩
  | new => exact ⟨_, .tail (.tail (.tail (.single (.write rfl)) (.write rfl)) .read) .decide, rfl⟩
  | between => exact ⟨_, .tail (.tail (.single (.write rfl)) .read) .decide, rfl⟩
  | across => exact ⟨_, .tail (.tail (.tail (.single .read) (.write rfl)) (.write rfl)) .decide, rfl⟩

theorem meets_iff (registry : new.registry = old.registry) (decision : Decision) :
    Meets old new integration caller head body decision ↔
      ∃ engine, Mixture old new engine ∧
        (engine.authorize integration caller head body).1 = decision := by
  constructor
  · exact fun meets => meets.mixture registry
  · rintro ⟨engine, mixture, rfl⟩
    exact mixture.meets registry

end Runs

end Overlap

/-- A replacement that is accepted makes the two writes, one after the other, on the engine
as it was. -/
theorem Change.run_reload_eq_writes {engine after : Engine} {allowed : List AllowEntry}
    {denied : List DenyEntry} (reloaded : engine.reload allowed denied = .ok after) :
    (Change.reload allowed denied).run engine =
      ((Overlap.start engine after).writes.forM id).run engine := by
  obtain ⟨allowlist, denylist, allowBuilt, denyBuilt, rfl⟩ := Engine.reload_eq_ok_iff.mp reloaded
  simp only [Change.reload, EStateM.run_bind, EStateM.run_get, run_ofExcept, allowBuilt, denyBuilt]
  rfl

/-- A replacement that is accepted is its two writes. A decision that is taken while they are
made is that of a mixture, and the decision of each mixture can be met. It allows what neither
the old policy nor the new one allows for exactly two kinds of request. Between the writes
that is a request which the old policy does not allow, the new one denies, and no old rule
stops. Where both writes fall between the reads it is one which the old policy denies, the new
one does not allow, and no new rule stops. -/
theorem Engine.authorize_during_reload {engine after : Engine} {allowed : List AllowEntry}
    {denied : List DenyEntry} (reloaded : engine.reload allowed denied = .ok after)
    (integration caller : String) (head : RequestHead) (body : Body) :
    (Change.reload allowed denied).run engine =
        ((Overlap.start engine after).writes.forM id).run engine ∧
      (∀ decision, Overlap.Meets engine after integration caller head body decision ↔
        ∃ mixture, Overlap.Mixture engine after mixture ∧
          (mixture.authorize integration caller head body).1 = decision) ∧
      (after.Exposes engine integration caller head body ↔
        (engine.authorize integration caller head body).1 = .notAllowed ∧
          (∃ refusal, (after.authorize integration caller head body).1 = .denied refusal) ∧
            ∀ rule ∈ engine.denylist.triedFor integration caller,
              rule.stops head body = false) ∧
      (engine.Exposes after integration caller head body ↔
        (∃ refusal, (engine.authorize integration caller head body).1 = .denied refusal) ∧
          (after.authorize integration caller head body).1 = .notAllowed ∧
            ∀ rule ∈ after.denylist.triedFor integration caller,
              rule.stops head body = false) ∧
      ((Overlap.Meets engine after integration caller head body .allow →
          (engine.authorize integration caller head body).1 = .allow ∨
            (after.authorize integration caller head body).1 = .allow) ↔
        ¬ after.Exposes engine integration caller head body ∧
          ¬ engine.Exposes after integration caller head body) := by
  have registry : after.registry = engine.registry := by
    obtain ⟨allowlist, denylist, _, _, rfl⟩ := reload_eq_ok_iff.mp reloaded
    rfl
  have met : ∀ decision, Overlap.Meets engine after integration caller head body decision ↔ _ :=
    fun decision => Overlap.meets_iff registry decision
  refine ⟨Change.run_reload_eq_writes reloaded, met, exposes_iff.trans and_left_comm,
    exposes_iff, ?_⟩
  constructor
  · intro safe
    refine ⟨fun exposes => ?_, fun exposes => ?_⟩
    · exact (safe ((met _).mpr ⟨_, .between, exposes.1⟩)).elim exposes.2.2 exposes.2.1
    · exact (safe ((met _).mpr ⟨_, .across, exposes.1⟩)).elim exposes.2.1 exposes.2.2
  · rintro ⟨safeBetween, safeAcross⟩ meets
    obtain ⟨mixture, isMixture, allows⟩ := (met _).mp meets
    by_contra neither
    obtain ⟨oldRefuses, newRefuses⟩ := not_or.mp neither
    cases isMixture with
    | old => exact oldRefuses allows
    | new => exact newRefuses allows
    | between => exact safeBetween ⟨allows, newRefuses, oldRefuses⟩
    | across => exact safeAcross ⟨allows, oldRefuses, newRefuses⟩

namespace OverlapSample

/-- A rule that covers one path for reading. -/
def rule (path : String) : Rule := (Rule.onPath path).withMethod "GET" .unrestricted

/-- Nothing is allowed, and so nothing has to be denied. -/
def closed : Engine := Engine.ofRegistry Registry.empty

/-- Everything may be read but one path. -/
def allowed : List AllowEntry := [⟨"github", [⟨"ci", [], [rule "/**"]⟩]⟩]

/-- The path that is kept back. -/
def denied : List DenyEntry := [⟨"github", [⟨"ci", [rule "/admin"]⟩]⟩]

/-- The engine with both lists. -/
def guarded : Engine :=
  { closed with allowlist := Allowlist.listOf Registry.empty allowed,
                denylist := Denylist.listOf denied }

theorem opened : closed.reload allowed denied = .ok guarded :=
  Engine.reload_eq_ok_iff.mpr ⟨_, _, by decide +kernel, by decide +kernel, rfl⟩

theorem closedAgain : guarded.reload [] [] = .ok closed :=
  Engine.reload_eq_ok_iff.mpr ⟨_, _, by decide +kernel, by decide +kernel, rfl⟩

/-- The request that no policy allows. -/
def admin : RequestHead := ⟨"GET", "/admin", none, []⟩

/-- A request that the new policy allows. -/
def repos : RequestHead := ⟨"GET", "/repos", none, []⟩

end OverlapSample

open OverlapSample in
theorem Engine.authorize_during_reload_sample :
    closed.reload allowed denied = .ok guarded ∧
      guarded.Exposes closed "github" "ci" admin .empty ∧
      ¬ guarded.Exposes closed "github" "ci" repos .empty ∧
      guarded.reload [] [] = .ok closed ∧
      Overlap.Meets guarded closed "github" "ci" admin .empty .allow := by
  obtain ⟨_, _, between, _, _⟩ := authorize_during_reload opened "github" "ci" admin .empty
  obtain ⟨_, _, betweenRepos, _, _⟩ := authorize_during_reload opened "github" "ci" repos .empty
  obtain ⟨_, met, _, _, _⟩ := authorize_during_reload closedAgain "github" "ci" admin .empty
  refine ⟨opened, between.mpr ⟨?_, ⟨.forbidden "ci" "GET" "/admin", ?_⟩, ?_⟩, fun exposes => ?_,
    closedAgain, (met _).mpr ⟨_, .across, ?_⟩⟩
  · decide +kernel
  · decide +kernel
  · decide +kernel
  · obtain ⟨_, ⟨refusal, isDenied⟩, _⟩ := betweenRepos.mp exposes
    have allows : (guarded.authorize "github" "ci" repos .empty).1 = .allow := by decide +kernel
    rw [allows] at isDenied
    cases isDenied
  · decide +kernel

open OverlapSample in
/-- A request that no policy allows is allowed while both lists are replaced: between the
writes when the policy is put in place, and across them when it is taken away. -/
theorem Engine.reload_exposes_request :
    closed.reload allowed denied = .ok guarded ∧
      guarded.reload [] [] = .ok closed ∧
      (closed.authorize "github" "ci" admin .empty).1 = .notAllowed ∧
      (guarded.authorize "github" "ci" admin .empty).1 =
        .denied (.forbidden "ci" "GET" "/admin") ∧
      ((guarded.mixed closed).authorize "github" "ci" admin .empty).1 = .allow ∧
      Overlap.Meets closed guarded "github" "ci" admin .empty .allow ∧
      Overlap.Meets guarded closed "github" "ci" admin .empty .allow := by
  have exposed : ((guarded.mixed closed).authorize "github" "ci" admin .empty).1 = .allow := by
    decide +kernel
  have registry : guarded.registry = closed.registry := rfl
  refine ⟨opened, closedAgain, by decide +kernel, by decide +kernel, exposed, ?_, ?_⟩
  · exact (Overlap.meets_iff registry _).mpr ⟨_, .between, exposed⟩
  · exact (Overlap.meets_iff registry.symm _).mpr ⟨_, .across, exposed⟩

end CallPolicy
