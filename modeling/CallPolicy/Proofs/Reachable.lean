import CallPolicy.Proofs.History
import Mathlib.Logic.Relation

/-!
Contract: the engines that can come about.

Owns:
- the steps of an engine, which are calls, whether they succeed or fail, and
  replacements of one list by a list that was built before;
- what one step can write in either list;
- what holds of the lists of every engine that is reached from an empty one.

Does not own: any particular property of a list.
-/

namespace CallPolicy

/-- What one step can leave in place of an allowlist. A list may have been built with
any registry. -/
inductive Allowlist.Writes (before : Allowlist) : Allowlist → Prop where
  | nothing : Writes before before
  | set {registry : Registry} {integration : String} {callers : List AllowCaller}
      {after : Allowlist} (succeeded : before.set registry integration callers = .ok after) :
      Writes before after
  | replace {registry : Registry} {entries : List AllowEntry} {after : Allowlist}
      (built : Allowlist.build registry entries = .ok after) : Writes before after

/-- What one step can leave in place of a denylist. -/
inductive Denylist.Writes (before : Denylist) : Denylist → Prop where
  | nothing : Writes before before
  | set {integration : String} {callers : List DenyCaller} {after : Denylist}
      (succeeded : before.set integration callers = .ok after) : Writes before after
  | replace {entries : List DenyEntry} {after : Denylist}
      (built : Denylist.build entries = .ok after) : Writes before after

namespace Engine

/-- One step of an engine. -/
inductive Step : Engine → Engine → Prop where
  | call (engine : Engine) (command : Command) : Step engine (engine.call command).2
  | replaceAllowlist (engine : Engine) {registry : Registry} {entries : List AllowEntry}
      {allowlist : Allowlist} (built : Allowlist.build registry entries = .ok allowlist) :
      Step engine { engine with allowlist }
  | replaceDenylist (engine : Engine) {entries : List DenyEntry} {denylist : Denylist}
      (built : Denylist.build entries = .ok denylist) : Step engine { engine with denylist }

/-- The engine is reached from an empty one. -/
def Reachable (registry : Registry) (engine : Engine) : Prop :=
  Relation.ReflTransGen Step (ofRegistry registry) engine

theorem reachable_calls (registry : Registry) (commands : List Command) :
    Reachable registry ((ofRegistry registry).calls commands).2 := by
  have runs : ∀ (commands : List Command) (engine : Engine),
      Relation.ReflTransGen Step engine (engine.calls commands).2 := by
    intro commands
    induction commands with
    | nil => exact fun engine => .refl
    | cons command rest inductionHypothesis =>
        intro engine
        rw [calls_cons]
        exact .head (.call engine command) (inductionHypothesis _)
  exact runs commands (ofRegistry registry)

/-! ### What a step writes -/

theorem asks_writes {engine after : Engine} {command : Command}
    (asked : command.asks engine = .ok after) :
    engine.allowlist.Writes after.allowlist ∧ engine.denylist.Writes after.denylist := by
  cases command with
  | setAllowed integration callers =>
      rw [Command.asks, Checks.map_eq_ok_iff] at asked
      obtain ⟨allowlist, succeeded, rfl⟩ := asked
      exact ⟨.set succeeded, .nothing⟩
  | setDenied integration callers =>
      rw [Command.asks, Checks.map_eq_ok_iff] at asked
      obtain ⟨denylist, succeeded, rfl⟩ := asked
      exact ⟨.nothing, .set succeeded⟩
  | buildAllowed allowed =>
      rw [Command.asks, Checks.map_eq_ok_iff] at asked
      obtain ⟨allowlist, built, rfl⟩ := asked
      exact ⟨.replace built, .nothing⟩
  | buildDenied denied =>
      rw [Command.asks, Checks.map_eq_ok_iff] at asked
      obtain ⟨denylist, built, rfl⟩ := asked
      exact ⟨.nothing, .replace built⟩
  | reload allowed denied =>
      simp only [Command.asks, Checks.bind_eq_ok_iff, Except.ok.injEq] at asked
      obtain ⟨allowlist, allowBuilt, denylist, denyBuilt, rfl⟩ := asked
      exact ⟨.replace allowBuilt, .replace denyBuilt⟩
  | loadFiles files allowPath denyPath =>
      simp only [Command.asks, Checks.bind_eq_ok_iff, Except.ok.injEq] at asked
      obtain ⟨entries, _, allowlist, allowBuilt, denylist, denyBuilt, rfl⟩ := asked
      exact ⟨.replace allowBuilt, .replace denyBuilt⟩

theorem Step.writes {before after : Engine} (step : Step before after) :
    before.allowlist.Writes after.allowlist ∧ before.denylist.Writes after.denylist := by
  cases step with
  | call command =>
      rw [call_eq]
      cases asked : command.asks before with
      | ok after => exact asks_writes asked
      | error error => exact ⟨.nothing, .nothing⟩
  | replaceAllowlist built => exact ⟨.replace built, .nothing⟩
  | replaceDenylist built => exact ⟨.nothing, .replace built⟩

/-! ### What holds of every reachable engine -/

namespace Reachable

variable {registry : Registry} {engine : Engine}

/-- What holds of the empty allowlist and is kept by every write holds of every allowlist
that is reached. -/
theorem allowlist_invariant {Invariant : Allowlist → Prop} (initially : Invariant Keyed.empty)
    (kept : ∀ before after : Allowlist, before.Writes after → Invariant before → Invariant after)
    (reachable : Reachable registry engine) : Invariant engine.allowlist := by
  induction reachable with
  | refl => exact initially
  | tail _ step inductionHypothesis => exact kept _ _ step.writes.1 inductionHypothesis

theorem denylist_invariant {Invariant : Denylist → Prop} (initially : Invariant Keyed.empty)
    (kept : ∀ before after : Denylist, before.Writes after → Invariant before → Invariant after)
    (reachable : Reachable registry engine) : Invariant engine.denylist := by
  induction reachable with
  | refl => exact initially
  | tail _ step inductionHypothesis => exact kept _ _ step.writes.2 inductionHypothesis

end Reachable

end Engine

end CallPolicy
