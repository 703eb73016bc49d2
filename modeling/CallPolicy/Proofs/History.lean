import CallPolicy.Proofs.Changes

/-!
Contract: histories of calls on one engine.

Owns:
- histories with some of the failed calls left out;
- that leaving them out changes no other answer and no engine that is reached;
- what both lists are after a successful replacement, whatever came before it.

Does not own: which calls fail.
-/

namespace CallPolicy

/-- The second history is the first one with some of its failed calls left out. -/
inductive WithoutFailures :
    List (Command × Answer) → List (Command × Answer) → Prop where
  | nil : WithoutFailures [] []
  | keep (event : Command × Answer) {history kept : List (Command × Answer)}
      (rest : WithoutFailures history kept) :
      WithoutFailures (event :: history) (event :: kept)
  | drop (command : Command) (error : PolicyError) {history kept : List (Command × Answer)}
      (rest : WithoutFailures history kept) :
      WithoutFailures ((command, .error error) :: history) kept

theorem WithoutFailures.of_cons {event : Command × Answer}
    {history kept : List (Command × Answer)} (pruned : WithoutFailures (event :: history) kept) :
    (∃ others, kept = event :: others ∧ WithoutFailures history others) ∨
      ∃ error, event.2 = .error error ∧ WithoutFailures history kept := by
  cases pruned with
  | keep _ rest => exact Or.inl ⟨_, rfl, rest⟩
  | drop command error rest => exact Or.inr ⟨error, rfl, rest⟩

/-- Both lists of an engine are those that the entries build. -/
def Engine.BuiltFrom (registry : Registry) (allowed : List AllowEntry)
    (denied : List DenyEntry) (engine : Engine) : Prop :=
  Allowlist.build registry allowed = .ok engine.allowlist ∧
    Denylist.build denied = .ok engine.denylist

namespace Engine

/-! ### One call -/

/-- A failed call leaves the engine as it was. -/
theorem call_snd_of_error {engine : Engine} {command : Command} {error : PolicyError}
    (failed : (engine.call command).1 = .error error) : (engine.call command).2 = engine := by
  rw [call_eq] at failed ⊢
  cases outcome : command.asks engine with
  | ok after =>
      rw [outcome] at failed
      cases failed
  | error _ => rfl

theorem asks_registry {engine after : Engine} {command : Command}
    (asked : command.asks engine = .ok after) : after.registry = engine.registry := by
  cases command with
  | setAllowed | setDenied | buildAllowed | buildDenied =>
      rw [Command.asks, Checks.map_eq_ok_iff] at asked
      obtain ⟨_, _, rfl⟩ := asked
      rfl
  | reload =>
      simp only [Command.asks, Checks.bind_eq_ok_iff, Except.ok.injEq] at asked
      obtain ⟨_, _, _, _, rfl⟩ := asked
      rfl
  | loadFiles =>
      simp only [Command.asks, Checks.bind_eq_ok_iff, Except.ok.injEq] at asked
      obtain ⟨_, _, _, _, _, _, rfl⟩ := asked
      rfl

theorem call_registry (engine : Engine) (command : Command) :
    (engine.call command).2.registry = engine.registry := by
  rw [call_eq]
  cases asked : command.asks engine with
  | ok after => exact asks_registry asked
  | error _ => rfl

theorem call_eq_ok_iff {engine after : Engine} {command : Command} :
    engine.call command = (.ok (), after) ↔ command.asks engine = .ok after := by
  rw [call_eq]
  cases command.asks engine <;> simp

theorem builtFrom_of_reload {engine after : Engine} {allowed : List AllowEntry}
    {denied : List DenyEntry}
    (succeeded : engine.call (.reload allowed denied) = (.ok (), after)) :
    after.BuiltFrom engine.registry allowed denied := by
  rw [call_eq_ok_iff, Command.asks] at succeeded
  simp only [Checks.bind_eq_ok_iff, Except.ok.injEq] at succeeded
  obtain ⟨_, allowBuilt, _, denyBuilt, rfl⟩ := succeeded
  exact ⟨allowBuilt, denyBuilt⟩

theorem entriesOf_eq_ok_iff {files : Files} {allowPath : String} {denyPath : Option String}
    {allowed : List AllowEntry} {denied : List DenyEntry} :
    entriesOf files allowPath denyPath = .ok (allowed, denied) ↔
      Document.loadAllowlist files allowPath = .ok allowed ∧
        match denyPath with
        | some path => Document.loadDenylist files path = .ok denied
        | none => denied = [] := by
  cases denyPath with
  | some path => simp [entriesOf, Checks.bind_eq_ok_iff]
  | none =>
      simp only [entriesOf, Checks.bind_eq_ok_iff, Except.ok.injEq, exists_eq_left',
        Prod.mk.injEq]
      constructor
      · intro checked
        obtain ⟨_, read, rfl, rfl⟩ := checked
        exact ⟨read, rfl⟩
      · intro accepted
        obtain ⟨read, rfl⟩ := accepted
        exact ⟨_, read, rfl, rfl⟩

theorem builtFrom_of_loadFiles {engine after : Engine} {files : Files} {allowPath : String}
    {denyPath : Option String}
    (succeeded : engine.call (.loadFiles files allowPath denyPath) = (.ok (), after)) :
    ∃ allowed denied, entriesOf files allowPath denyPath = .ok (allowed, denied) ∧
      after.BuiltFrom engine.registry allowed denied := by
  rw [call_eq_ok_iff, Command.asks] at succeeded
  simp only [Checks.bind_eq_ok_iff, Except.ok.injEq] at succeeded
  obtain ⟨⟨allowed, denied⟩, read, _, allowBuilt, _, denyBuilt, rfl⟩ := succeeded
  exact ⟨allowed, denied, read, allowBuilt, denyBuilt⟩

/-! ### Histories -/

theorem calls_cons (engine : Engine) (command : Command) (rest : List Command) :
    engine.calls (command :: rest) =
      ((command, (engine.call command).1) :: ((engine.call command).2.calls rest).1,
        ((engine.call command).2.calls rest).2) := rfl

theorem calls_map_fst (engine : Engine) (commands : List Command) :
    (engine.calls commands).1.map Prod.fst = commands := by
  induction commands generalizing engine with
  | nil => rfl
  | cons command rest inductionHypothesis =>
      rw [calls_cons, List.map_cons, inductionHypothesis]

theorem calls_registry (engine : Engine) (commands : List Command) :
    (engine.calls commands).2.registry = engine.registry := by
  induction commands generalizing engine with
  | nil => rfl
  | cons command rest inductionHypothesis =>
      rw [calls_cons, inductionHypothesis, call_registry]

/-- Leaving failed calls out of a history leaves all other answers and the last engine
as they are. -/
theorem calls_of_withoutFailures {engine : Engine} {commands : List Command}
    {kept : List (Command × Answer)}
    (pruned : WithoutFailures (engine.calls commands).1 kept) :
    engine.calls (kept.map Prod.fst) = (kept, (engine.calls commands).2) := by
  induction commands generalizing engine kept with
  | nil =>
      cases pruned
      rfl
  | cons command rest inductionHypothesis =>
      rw [calls_cons] at pruned ⊢
      -- A call that is kept leads both histories to the same engine. One that is left out
      -- has failed, so the engine before it is the engine after it.
      rcases pruned.of_cons with ⟨others, rfl, restPruned⟩ | ⟨error, failed, restPruned⟩
      · rw [List.map_cons, calls_cons, inductionHypothesis restPruned]
      · rw [call_snd_of_error failed] at restPruned ⊢
        exact inductionHypothesis restPruned

/-- Failed calls leave no trace in a history, and a replacement that succeeds leaves none
of what came before it. -/
theorem calls_leave_no_trace (engine : Engine) (commands : List Command) :
    (∀ kept, WithoutFailures (engine.calls commands).1 kept →
        engine.calls (kept.map Prod.fst) = (kept, (engine.calls commands).2)) ∧
      (∀ allowed denied after,
        (engine.calls commands).2.call (.reload allowed denied) = (.ok (), after) →
          after.BuiltFrom engine.registry allowed denied) ∧
      ∀ files allowPath denyPath after,
        (engine.calls commands).2.call (.loadFiles files allowPath denyPath) = (.ok (), after) →
          ∃ allowed denied, entriesOf files allowPath denyPath = .ok (allowed, denied) ∧
            after.BuiltFrom engine.registry allowed denied ∧
              (denyPath = none → after.denylist = Keyed.empty) := by
  refine ⟨fun kept pruned => calls_of_withoutFailures pruned, ?_, ?_⟩
  · intro allowed denied after succeeded
    rw [← calls_registry engine commands]
    exact builtFrom_of_reload succeeded
  · intro files allowPath denyPath after succeeded
    obtain ⟨allowed, denied, read, built⟩ := builtFrom_of_loadFiles succeeded
    rw [calls_registry engine commands] at built
    refine ⟨allowed, denied, read, built, ?_⟩
    intro noPath
    subst noPath
    obtain ⟨_, noEntries⟩ := entriesOf_eq_ok_iff.mp read
    subst noEntries
    exact (Except.ok.inj built.2).symm

namespace HistorySample

/-- An engine without capabilities. -/
def start : Engine := .ofRegistry Registry.empty

/-- Entries that are accepted. -/
def allowed : List AllowEntry := [⟨"github", [⟨"ci", [], []⟩]⟩]

/-- A call without a name for the integration. -/
def unnamed : Command := .setDenied "" []

/-- A batch with a rule that has no methods. -/
def methodless : Command := .buildAllowed [⟨"github", [⟨"ci", [], [.onPath "/repos"]⟩]⟩]

/-- A replacement that succeeds, then both calls that fail. -/
def commands : List Command := [.reload allowed [], unnamed, methodless]

/-- Every path holds a document that allows nothing to one integration. -/
def files : Files := fun _ => .ok (Text.Utf8.bytes "[[\"github\", []]]")

/-- The history without the call that names no integration. -/
def kept : List (Command × Answer) :=
  [(.reload allowed [], .ok ()), (methodless, .error (.noMethods "github" "ci" 0 "/repos"))]

theorem history :
    (start.calls commands).1 =
      [(.reload allowed [], .ok ()), (unnamed, .error (.missingIntegration 0)),
        (methodless, .error (.noMethods "github" "ci" 0 "/repos"))] := by
  refine List.zip_of_prod (calls_map_fst start commands) (?_ : _ = [_, _, _])
  decide +kernel

end HistorySample

open HistorySample in
theorem calls_leave_no_trace_sample :
    start.calls [.reload allowed [], methodless] = (kept, (start.calls commands).2) ∧
      (∃ after, (start.calls commands).2.call (.reload allowed []) = (.ok (), after) ∧
        after.BuiltFrom start.registry allowed []) ∧
      ∃ after, (start.calls commands).2.call (.loadFiles files "allow.json" none) =
          (.ok (), after) ∧
        after.denylist = Keyed.empty := by
  obtain ⟨pruned, reloaded, loaded⟩ := calls_leave_no_trace start commands
  have again : (start.calls commands).2.call (.reload allowed []) =
      (.ok (), ((start.calls commands).2.call (.reload allowed [])).2) :=
    Prod.ext (by decide +kernel) rfl
  have fromFile : (start.calls commands).2.call (.loadFiles files "allow.json" none) =
      (.ok (), ((start.calls commands).2.call (.loadFiles files "allow.json" none)).2) :=
    Prod.ext (by decide +kernel) rfl
  refine ⟨?_, ⟨_, again, reloaded allowed [] _ again⟩, ?_⟩
  · refine pruned kept ?_
    rw [history]
    exact .keep _ (.drop _ _ (.keep _ .nil))
  · obtain ⟨_, _, _, _, denyEmpty⟩ := loaded files "allow.json" none _ fromFile
    exact ⟨_, fromFile, denyEmpty rfl⟩

end Engine

end CallPolicy
