import CallPolicy.Proofs.Checking
import CallPolicy.Proofs.History

/-!
Contract: what a lint says about the use of documents.

Owns:
- which documents can be installed, whatever an engine holds before;
- that a lint passes exactly those, although it reads and checks the two documents in turn
  and loading reads both before it checks any;
- that documents which pass are refused neither by a check nor by a replacement, and that
  documents which do not pass are installed nowhere.

Does not own: which entries a list accepts.
-/

namespace CallPolicy

namespace Engine

/-- A call that cannot get what it asks for fails and leaves the engine as it was. -/
theorem call_of_not_asks {engine : Engine} {command : Command}
    (refused : ¬∃ after, command.asks engine = .ok after) :
    ∃ error, engine.call command = (.error error, engine) := by
  rw [call_eq]
  cases asked : command.asks engine with
  | ok after => exact absurd ⟨after, asked⟩ refused
  | error error => exact ⟨error, rfl⟩

end Engine

namespace CommandLine

/-- Both lists accept these entries. -/
def Installable (allowed : List AllowEntry) (denied : List DenyEntry) : Prop :=
  (∃ allowlist, Allowlist.build Registry.builtin allowed = .ok allowlist) ∧
    ∃ denylist, Denylist.build denied = .ok denylist

/-- The documents at these paths can be read, and both lists accept what they hold. -/
def Loadable (files : Files) (allowPath : String) (denyPath : Option String) : Prop :=
  ∃ allowed denied, Engine.entriesOf files allowPath denyPath = .ok (allowed, denied) ∧
    Installable allowed denied

/-! ### Loading -/

section Loading

variable {engine : Engine} {files : Files} {allowPath : String} {denyPath : Option String}

theorem exists_reload_iff (known : engine.registry = Registry.builtin)
    {allowed : List AllowEntry} {denied : List DenyEntry} :
    (∃ after, (Command.reload allowed denied).asks engine = .ok after) ↔
      Installable allowed denied := by
  simp only [Command.asks, known, Checks.exists_bind_eq_ok_iff, Except.ok.injEq, exists_eq',
    and_true, exists_and_right, Installable]

/-- What an engine holds does not matter to loading, only its capabilities do. -/
theorem exists_loadFiles_iff (known : engine.registry = Registry.builtin) :
    (∃ after, engine.loadFiles files allowPath denyPath = .ok after) ↔
      Loadable files allowPath denyPath := by
  have asReload : (∃ after, engine.loadFiles files allowPath denyPath = .ok after) ↔
      ∃ entries, Engine.entriesOf files allowPath denyPath = .ok entries ∧
        ∃ after, (Command.reload entries.1 entries.2).asks engine = .ok after := by
    simp only [Engine.loadFiles, Engine.changed_eq]
    exact Checks.exists_bind_eq_ok_iff
  simp only [asReload, exists_reload_iff known, Prod.exists, Loadable]

end Loading

/-! ### Linting -/

section Linting

variable {files : Files} {settings : Config.Settings} {paths : DocumentPaths}

theorem exists_lintAllowlist_iff {path : String} :
    (∃ summary, lintAllowlist files path = .ok summary) ↔
      ∃ allowed, Document.loadAllowlist files path = .ok allowed ∧
        ∃ allowlist, Allowlist.build Registry.builtin allowed = .ok allowlist := by
  unfold lintAllowlist
  cases Document.loadAllowlist files path with
  | error error => simp
  | ok allowed => cases built : Allowlist.build Registry.builtin allowed <;> simp [built]

theorem exists_lintDenylist_iff {path : String} :
    (∃ summary, lintDenylist files path = .ok summary) ↔
      ∃ denied, Document.loadDenylist files path = .ok denied ∧
        ∃ denylist, Denylist.build denied = .ok denylist := by
  unfold lintDenylist
  cases Document.loadDenylist files path with
  | error error => simp
  | ok denied => cases built : Denylist.build denied <;> simp [built]

/-- The documents that a lint reads and builds one after the other are those that loading
reads first and builds then. -/
theorem loadable_iff {allowPath : String} {denyPath : Option String} :
    Loadable files allowPath denyPath ↔
      (∃ summary, lintAllowlist files allowPath = .ok summary) ∧
        ∀ path ∈ denyPath, ∃ summary, lintDenylist files path = .ok summary := by
  simp only [Loadable, Installable, exists_lintAllowlist_iff, exists_lintDenylist_iff]
  cases denyPath with
  | none =>
      -- Loading still builds a denylist, the empty one.
      have emptyBuilt : ∃ denylist, Denylist.build [] = .ok denylist := ⟨_, rfl⟩
      simp [Engine.entriesOf_eq_ok_iff, emptyBuilt]
  | some path =>
      simp only [Engine.entriesOf_eq_ok_iff, Option.mem_some_iff, forall_eq']
      constructor
      · rintro ⟨allowed, denied, ⟨readAllowed, readDenied⟩, builtAllowed, builtDenied⟩
        exact ⟨⟨allowed, readAllowed, builtAllowed⟩, denied, readDenied, builtDenied⟩
      · rintro ⟨⟨allowed, readAllowed, builtAllowed⟩, denied, readDenied, builtDenied⟩
        exact ⟨allowed, denied, ⟨readAllowed, readDenied⟩, builtAllowed, builtDenied⟩

theorem lintDocuments_eq_ok_iff :
    (lintDocuments files settings paths).result = .ok () ↔
      ∃ allowPath denyPath, paths.resolve settings.policy = .ok (allowPath, denyPath) ∧
        Loadable files allowPath denyPath := by
  simp only [loadable_iff, lintDocuments]
  cases paths.resolve settings.policy with
  | error report => simp [Written.fail]
  | ok found =>
      obtain ⟨allowPath, denyPath⟩ := found
      cases allowed : lintAllowlist files allowPath with
      | error report => simp [allowed, Written.fail]
      | ok summary =>
          cases denyPath with
          | none => simp [allowed]
          | some path =>
              cases denied : lintDenylist files path <;> simp [allowed, denied, Written.fail]

end Linting

/-! ### Agreement -/

section Agreement

variable {files : Files} {settings : Config.Settings} {paths : DocumentPaths} {engine : Engine}

theorem lintDocuments_ok_iff_loads (known : engine.registry = Registry.builtin) :
    (lintDocuments files settings paths).result = .ok () ↔
      ∃ allowPath denyPath, paths.resolve settings.policy = .ok (allowPath, denyPath) ∧
        ∃ after, engine.loadFiles files allowPath denyPath = .ok after := by
  simp only [lintDocuments_eq_ok_iff, exists_loadFiles_iff known]

/-- A check of documents that do not pass fails as well. -/
theorem exists_error_of_lint_fails
    (fails : (lintDocuments files settings paths).result ≠ .ok ()) (request : CheckRequest) :
    ∃ report, decide files settings paths request = .error report := by
  cases decided : decide files settings paths request with
  | error report => exact ⟨report, rfl⟩
  | ok decision =>
      obtain ⟨resolved, loaded, _, _⟩ := decide_eq_ok_iff.mp decided
      exact absurd ((lintDocuments_ok_iff_loads rfl).mpr ⟨_, _, resolved, _, loaded⟩) fails

end Agreement

/-- A lint passes exactly the documents that an engine with the built-in capabilities loads,
whatever the engine holds. Documents that pass are refused nowhere: every check comes to
reading its request, with an engine that is loaded from them, and their entries can be
installed at any time. Documents that do not pass are installed nowhere: an engine that is to
load them, or to install their entries, fails and stays as it was, and every check fails. -/
theorem lint_agrees_with_loading (files : Files) (settings : Config.Settings)
    (paths : DocumentPaths) {engine : Engine} (known : engine.registry = Registry.builtin) :
    ((lintDocuments files settings paths).result = .ok () ↔
      ∃ allowPath denyPath, paths.resolve settings.policy = .ok (allowPath, denyPath) ∧
        ∃ after, engine.loadFiles files allowPath denyPath = .ok after) ∧
      ((lintDocuments files settings paths).result = .ok () →
        ∃ allowPath denyPath allowed denied,
          paths.resolve settings.policy = .ok (allowPath, denyPath) ∧
            Engine.entriesOf files allowPath denyPath = .ok (allowed, denied) ∧
            (∃ after, engine.call (.reload allowed denied) = (.ok (), after)) ∧
            ∃ loaded, (Engine.ofRegistry Registry.builtin).loadFiles files allowPath denyPath =
                .ok loaded ∧
              ∀ request, decide files settings paths request =
                CheckRequest.decideBy request files settings loaded) ∧
      ((lintDocuments files settings paths).result ≠ .ok () →
        (∀ allowPath denyPath, paths.resolve settings.policy = .ok (allowPath, denyPath) →
          (∃ error, engine.call (.loadFiles files allowPath denyPath) = (.error error, engine)) ∧
            ∀ allowed denied, Engine.entriesOf files allowPath denyPath = .ok (allowed, denied) →
              ∃ error, engine.call (.reload allowed denied) = (.error error, engine)) ∧
          ∀ request, ∃ report, decide files settings paths request = .error report) := by
  refine ⟨lintDocuments_ok_iff_loads known, fun passes => ?_, fun fails =>
    ⟨fun allowPath denyPath resolved => ?_, exists_error_of_lint_fails fails⟩⟩
  · obtain ⟨allowPath, denyPath, resolved, allowed, denied, read, installable⟩ :=
      lintDocuments_eq_ok_iff.mp passes
    obtain ⟨after, asked⟩ := (exists_reload_iff known).mpr installable
    have loadable : ∃ loaded, (Engine.ofRegistry Registry.builtin).loadFiles files allowPath
        denyPath = .ok loaded :=
      (exists_loadFiles_iff rfl).mpr ⟨allowed, denied, read, installable⟩
    obtain ⟨loaded, loads⟩ := loadable
    exact ⟨allowPath, denyPath, allowed, denied, resolved, read,
      ⟨after, Engine.call_eq_ok_iff.mpr asked⟩, loaded, loads,
      fun request => decide_of_loaded resolved loads⟩
  · have unloadable : ¬Loadable files allowPath denyPath := fun loadable =>
      fails (lintDocuments_eq_ok_iff.mpr ⟨allowPath, denyPath, resolved, loadable⟩)
    constructor
    · refine Engine.call_of_not_asks fun asked => unloadable ((exists_loadFiles_iff known).mp ?_)
      obtain ⟨after, asked⟩ := asked
      exact ⟨after, (Engine.changed_eq _ _).trans asked⟩
    · intro allowed denied read
      refine Engine.call_of_not_asks fun asked => unloadable ⟨allowed, denied, read, ?_⟩
      exact (exists_reload_iff known).mp asked

namespace LintSample

/-- An allowlist with a built-in capability, and a denylist with a rule that has no
methods. -/
def files : Files := fun path =>
  if path = "allow.json" then
    .ok (Text.Utf8.bytes "[[\"github\", [[\"ci\", [[\"dangerously_allow_full_access\"]]]]]]")
  else if path = "deny.json" then
    .ok (Text.Utf8.bytes "[[\"github\", [[\"ci\", [[\"/repos\"]]]]]]")
  else .error .missing

/-- The settings where nothing is configured. -/
def settings : Config.Settings := Config.Layer.empty.complete

/-- An engine that holds something else. -/
def engine : Engine :=
  ⟨Registry.builtin, Keyed.ofList [("slack", Keyed.empty)], Keyed.empty⟩

/-- Both documents of the files. -/
def paths : DocumentPaths := ⟨some "allow.json", some "deny.json"⟩

theorem allowlist_passes :
    lintAllowlist files "allow.json" =
      .ok "allow.json: ok\n  allowlist github: 1 callers, 0 rules, 1 capabilities\n" := by
  decide +kernel

theorem denylist_fails :
    lintDenylist files "deny.json" =
      .error (invalid "denylist" "deny.json" (.noMethods "github" "ci" 0 "/repos")) := by
  decide +kernel

end LintSample

open LintSample in
theorem lint_agrees_with_loading_sample :
    (∃ after, engine.loadFiles files "allow.json" none = .ok after) ∧
      (lintDocuments files settings paths).result ≠ .ok () ∧
      ∃ error, engine.call (.loadFiles files "allow.json" (some "deny.json")) =
        (.error error, engine) := by
  obtain ⟨passesIff, _, _⟩ := lint_agrees_with_loading files settings ⟨some "allow.json", none⟩
    (rfl : engine.registry = Registry.builtin)
  obtain ⟨_, _, ifFails⟩ := lint_agrees_with_loading files settings paths
    (rfl : engine.registry = Registry.builtin)
  have passes : (lintDocuments files settings ⟨some "allow.json", none⟩).result = .ok () :=
    lintDocuments_eq_ok_iff.mpr
      ⟨_, _, rfl, loadable_iff.mpr ⟨⟨_, allowlist_passes⟩, fun _ noPath => nomatch noPath⟩⟩
  have fails : (lintDocuments files settings paths).result ≠ .ok () := by
    intro passes
    obtain ⟨_, _, resolved, loadable⟩ := lintDocuments_eq_ok_iff.mp passes
    cases resolved
    obtain ⟨_, summed⟩ := (loadable_iff.mp loadable).2 _ rfl
    rw [denylist_fails] at summed
    cases summed
  obtain ⟨_, _, resolved, loads⟩ := passesIff.mp passes
  cases resolved
  obtain ⟨failsToLoad, _⟩ := (ifFails fails).1 _ _ rfl
  exact ⟨loads, fails, failsToLoad⟩

end CommandLine

end CallPolicy
