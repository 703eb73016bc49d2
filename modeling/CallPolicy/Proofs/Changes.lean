import CallPolicy.Engine
import CallPolicy.Proofs.Checks

/-!
Contract: everything that one call can do to an engine.

Owns:
- the engine that a call asks for, computed without steps;
- the law that a call either puts exactly this engine in place or leaves the engine
  as it was;
- when a replacement of both lists succeeds, and what is in place then.

Does not own: runs of several calls.
-/

namespace CallPolicy

/-- The engine that a call asks for, if all its checks pass. -/
def Command.asks (engine : Engine) : Command → Except PolicyError Engine
  | .setAllowed integration callers =>
      (engine.allowlist.set engine.registry integration callers).map fun allowlist =>
        { engine with allowlist }
  | .setDenied integration callers =>
      (engine.denylist.set integration callers).map fun denylist => { engine with denylist }
  | .buildAllowed allowed =>
      (Allowlist.build engine.registry allowed).map fun allowlist => { engine with allowlist }
  | .buildDenied denied =>
      (Denylist.build denied).map fun denylist => { engine with denylist }
  | .reload allowed denied => do
      let allowlist ← Allowlist.build engine.registry allowed
      let denylist ← Denylist.build denied
      .ok { engine with allowlist, denylist }
  | .loadFiles files allowPath denyPath => do
      let (allowed, denied) ← Engine.entriesOf files allowPath denyPath
      let allowlist ← Allowlist.build engine.registry allowed
      let denylist ← Denylist.build denied
      .ok { engine with allowlist, denylist }

namespace Change

/-- A check that fails ends the change without a trace. -/
@[simp] theorem run_ofExcept {α : Type} (check : Except PolicyError α) (engine : Engine) :
    EStateM.run (ofExcept check : Change α) engine =
      match check with
      | .ok value => .ok value engine
      | .error error => .error error engine := by
  cases check <;> rfl

theorem run_reload (engine : Engine) (allowed : List AllowEntry) (denied : List DenyEntry) :
    (reload allowed denied).run engine =
      match (Command.reload allowed denied).asks engine with
      | .ok after => .ok () after
      | .error error => .error error engine := by
  simp only [reload, Command.asks, EStateM.run_bind, EStateM.run_get, run_ofExcept]
  cases Allowlist.build engine.registry allowed with
  | error error => rfl
  | ok allowlist => cases Denylist.build denied <;> rfl

end Change

namespace Engine

/-- A call that succeeds puts in place the engine it asks for. One that fails leaves
the engine as it was. -/
theorem call_eq (engine : Engine) (command : Command) :
    engine.call command =
      match command.asks engine with
      | .ok after => (.ok (), after)
      | .error error => (.error error, engine) := by
  cases command with
  | setAllowed integration callers =>
      simp only [call, Command.change, Change.setAllowed, Command.asks, EStateM.run_bind,
        EStateM.run_get, Change.run_ofExcept]
      cases engine.allowlist.set engine.registry integration callers <;> rfl
  | setDenied integration callers =>
      simp only [call, Command.change, Change.setDenied, Command.asks, EStateM.run_bind,
        EStateM.run_get, Change.run_ofExcept]
      cases engine.denylist.set integration callers <;> rfl
  | buildAllowed allowed =>
      simp only [call, Command.change, Change.buildAllowed, Command.asks, EStateM.run_bind,
        EStateM.run_get, Change.run_ofExcept]
      cases Allowlist.build engine.registry allowed <;> rfl
  | buildDenied denied =>
      simp only [call, Command.change, Change.buildDenied, Command.asks, EStateM.run_bind,
        Change.run_ofExcept]
      cases Denylist.build denied <;> rfl
  | reload allowed denied =>
      rw [call, Command.change, Change.run_reload]
      cases (Command.reload allowed denied).asks engine <;> rfl
  | loadFiles files allowPath denyPath =>
      simp only [call, Command.change, Change.loadFiles, EStateM.run_bind,
        Change.run_ofExcept]
      cases read : entriesOf files allowPath denyPath with
      | error error => simp [Command.asks, read, bind, Except.bind]
      | ok entries =>
          have asked : (Command.loadFiles files allowPath denyPath).asks engine =
              (Command.reload entries.1 entries.2).asks engine := by
            simp [Command.asks, read, bind, Except.bind]
          simp only [asked, Change.run_reload]
          cases (Command.reload entries.1 entries.2).asks engine <;> rfl

theorem changed_eq (engine : Engine) (command : Command) :
    engine.changed command = command.asks engine := by
  rw [changed, call_eq]
  cases command.asks engine <;> rfl

theorem reload_eq_ok_iff {engine after : Engine} {allowed : List AllowEntry}
    {denied : List DenyEntry} :
    engine.reload allowed denied = .ok after ↔
      ∃ allowlist denylist, Allowlist.build engine.registry allowed = .ok allowlist ∧
        Denylist.build denied = .ok denylist ∧
          after = { engine with allowlist, denylist } := by
  simp only [reload, changed_eq, Command.asks, Checks.bind_eq_ok_iff, Except.ok.injEq]
  constructor
  · intro checked
    obtain ⟨allowlist, allowBuilt, denylist, denyBuilt, rfl⟩ := checked
    exact ⟨allowlist, denylist, allowBuilt, denyBuilt, rfl⟩
  · intro accepted
    obtain ⟨allowlist, denylist, allowBuilt, denyBuilt, rfl⟩ := accepted
    exact ⟨allowlist, allowBuilt, denylist, denyBuilt, rfl⟩

end Engine

end CallPolicy
