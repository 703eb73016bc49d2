import CallPolicy.CommandLine.Run
import CallPolicy.Document.ToJson
import CallPolicy.Json.Printer
import CallPolicy.Proofs.Changes
import CallPolicy.Proofs.Keys
import CallPolicy.Proofs.Layering
import CallPolicy.Proofs.Narrowing

/-!
Contract: what a check prints and how it ends.

Owns:
- the texts and characters of a request that a refusal repeats, none of which can break a
  line;
- the decision about a described request, told from the engine that is loaded for it;
- that the output of a check is one line that tells the decision, as does the exit status.

Does not own: which requests are allowed.
-/

namespace CallPolicy

/-! ### Texts without line breaks -/

/-- A text on one line. -/
def Text.IsLine (text : String) : Prop := '\n' ∉ text.toList

namespace Text

instance (text : String) : Decidable (IsLine text) := by
  unfold IsLine
  infer_instance

theorem isLine_append {first second : String} :
    IsLine (first ++ second) ↔ IsLine first ∧ IsLine second := by
  simp [IsLine, String.toList_append]

/-- What is written in a base are digits of that base. -/
theorem exists_digit_of_mem_toDigits {base value : Nat} {char : Char} (proper : 1 < base)
    (member : char ∈ Nat.toDigits base value) :
    ∃ digit < base, char = Nat.digitChar digit := by
  induction value using Nat.strongRecOn with
  | ind value inductionHypothesis =>
      rcases Nat.lt_or_ge value base with single | long
      · rw [Nat.toDigits_of_lt_base single, List.mem_singleton] at member
        exact ⟨value, single, member⟩
      · rw [Nat.toDigits_of_base_le proper long, List.mem_append, List.mem_singleton] at member
        rcases member with higher | last
        · have positive : 0 < value := by omega
          exact inductionHypothesis _ (Nat.div_lt_self positive proper) higher
        · exact ⟨value % base, Nat.mod_lt _ (by omega), last⟩

/-- A line break is quoted by an escape, and so is not part of a quoted text. -/
theorem lineFeed_not_mem_quoteChar (char : Char) : '\n' ∉ quoteChar char := by
  unfold quoteChar
  split_ifs with null tab lineFeed carriage quotation backslash shown
  · decide
  · decide
  · decide
  · decide
  · decide
  · decide
  · rw [List.mem_singleton]
    exact fun same => lineFeed same.symm
  -- An escape by number, of which only the digits vary.
  · simp only [List.mem_append, not_or]
    refine ⟨⟨by decide, fun member => ?_⟩, by decide⟩
    obtain ⟨digit, below, same⟩ := exists_digit_of_mem_toDigits (by decide) member
    have noLineFeed : ∀ digit < 16, '\n' ≠ Nat.digitChar digit := by decide
    exact noLineFeed digit below same

theorem isLine_quote (text : String) : IsLine (quote text) := by
  rw [IsLine, quote, String.toList_ofList, List.mem_cons, List.mem_append, List.mem_flatMap,
    List.mem_singleton]
  rintro (opening | ⟨char, _, member⟩ | closing)
  · exact absurd opening (by decide)
  · exact lineFeed_not_mem_quoteChar char member
  · exact absurd closing (by decide)

theorem isLine_of_isToken {text : String} (token : Ascii.isToken text = true) : IsLine text := by
  intro member
  rw [Ascii.isToken, Bool.and_eq_true, List.all_eq_true] at token
  exact absurd (token.2 _ member) (by decide)

end Text

/-! ### What a request repeats -/

namespace Uri

theorem isPathChar_of_ofPathAndQuery {text : List Char} {target : Uri}
    (read : ofPathAndQuery text = .ok target) :
    ∀ char ∈ target.path.toList, isPathChar char = true := by
  unfold ofPathAndQuery at read
  dsimp only at read
  split at read
  · cases read
  · rename_i accepted
    cases read
    rw [Bool.or_eq_true, not_or] at accepted
    split
    · exact List.all_eq_true.mp (by decide : "/".toList.all isPathChar = true)
    · rw [String.toList_ofList]
      simpa using accepted.1

/-- A target with a scheme has the path behind its authority, and a bare authority has
none. -/
theorem isPathChar_of_ofFullText {text : List Char} {target : Uri}
    (read : ofFullText text = .ok target) :
    ∀ char ∈ target.path.toList, isPathChar char = true := by
  unfold ofFullText at read
  split at read
  · split_ifs at read
    obtain ⟨_, _, read⟩ := Checks.bind_eq_ok_iff.mp read
    split at read
    · cases read
    · exact isPathChar_of_ofPathAndQuery read
  · obtain ⟨_, _, read⟩ := Checks.bind_eq_ok_iff.mp read
    split at read
    · cases read
    · cases read
      exact List.forall_mem_nil _

/-- The path of an accepted target holds path characters alone, whichever form the target
has. -/
theorem isPathChar_of_parse {text : String} {target : Uri} (read : parse text = .ok target) :
    ∀ char ∈ target.path.toList, isPathChar char = true := by
  unfold parse at read
  dsimp only at read
  split at read
  · cases read
  · split at read
    · cases read
    · cases read
      exact List.all_eq_true.mp (by decide : "*".toList.all isPathChar = true)
    · exact isPathChar_of_ofPathAndQuery read
    · exact isPathChar_of_ofFullText read

theorem isLine_path {text : String} {target : Uri} (read : parse text = .ok target) :
    Text.IsLine target.path := by
  intro member
  exact absurd (isPathChar_of_parse read _ member) (by decide)

end Uri

namespace RequestHead

theorem method_path_of_build {method uri : String} {headers : List (List UInt8 × List UInt8)}
    {head : RequestHead} (built : build method uri headers = .ok head) :
    head.method = method ∧ Text.IsLine method ∧ Text.IsLine head.path := by
  unfold build at built
  split at built
  · cases built
  · rename_i token
    split at built
    · cases built
    · rename_i target read
      obtain ⟨_, _, accepted⟩ := Checks.bind_eq_ok_iff.mp built
      cases accepted
      exact ⟨rfl, Text.isLine_of_isToken (by simpa using token), Uri.isLine_path read⟩

end RequestHead

/-- A refusal repeats the caller in quotes, the method and the path. -/
theorem Refusal.isLine_message {caller : String} {head : RequestHead}
    (method : Text.IsLine (Text.Ascii.upper head.method)) (path : Text.IsLine head.path) :
    Text.IsLine (Refusal.ofRequest caller head).message := by
  simp only [Refusal.ofRequest, Refusal.message, Text.isLine_append]
  exact ⟨⟨⟨⟨⟨by decide, Text.isLine_quote _⟩, by decide⟩, method⟩, by decide⟩, path⟩

namespace CommandLine

/-! ### The decision about a described request -/

/-- What is decided about a described request once an engine is loaded. -/
def CheckRequest.decideBy (request : CheckRequest) (files : Files) (settings : Config.Settings)
    (engine : Engine) : Except Report Decision := do
  let bytes ← request.bytes files
  let head ← request.head
  let limit := request.maxBodyBytes.getD settings.policy.maxBodyBytes
  .ok (engine.authorize request.integration request.caller head (.buffered bytes limit)).1

/-- The documents are found and loaded into an engine with the built-in capabilities, body and
head of the request are read, and this is what the engine then decides. -/
inductive Decides (files : Files) (settings : Config.Settings) (paths : DocumentPaths)
    (request : CheckRequest) : Decision → Prop where
  | intro {allowPath : String} {denyPath : Option String} {engine : Engine}
      {bytes : List UInt8} {head : RequestHead}
      (resolved : paths.resolve settings.policy = .ok (allowPath, denyPath))
      (loaded : (Engine.ofRegistry Registry.builtin).loadFiles files allowPath denyPath =
        .ok engine)
      (read : request.bytes files = .ok bytes)
      (built : request.head = .ok head) :
      Decides files settings paths request
        (engine.authorize request.integration request.caller head
          (.buffered bytes (request.maxBodyBytes.getD settings.policy.maxBodyBytes))).1

section Decides

variable {files : Files} {settings : Config.Settings} {paths : DocumentPaths}
  {request : CheckRequest} {decision : Decision} {allowPath : String} {denyPath : Option String}

theorem decide_of_unresolved {report : Report}
    (unresolved : paths.resolve settings.policy = .error report) :
    decide files settings paths request = .error report := by
  rw [decide, unresolved]
  rfl

theorem decide_of_unloaded {error : PolicyError}
    (resolved : paths.resolve settings.policy = .ok (allowPath, denyPath))
    (unloaded : (Engine.ofRegistry Registry.builtin).loadFiles files allowPath denyPath =
      .error error) :
    decide files settings paths request =
      .error ((Report.ofPolicyError error).during "loading policy documents") := by
  rw [decide, resolved]
  dsimp only [bind, Except.bind]
  rw [unloaded]

theorem decide_of_loaded {engine : Engine}
    (resolved : paths.resolve settings.policy = .ok (allowPath, denyPath))
    (loaded : (Engine.ofRegistry Registry.builtin).loadFiles files allowPath denyPath =
      .ok engine) :
    decide files settings paths request = request.decideBy files settings engine := by
  rw [decide, resolved]
  dsimp only [bind, Except.bind]
  rw [loaded]
  rfl

theorem CheckRequest.decideBy_eq_ok_iff {engine : Engine} :
    request.decideBy files settings engine = .ok decision ↔
      ∃ bytes head, request.bytes files = .ok bytes ∧ request.head = .ok head ∧
        (engine.authorize request.integration request.caller head
          (.buffered bytes (request.maxBodyBytes.getD settings.policy.maxBodyBytes))).1 =
            decision := by
  simp only [CheckRequest.decideBy, Checks.bind_eq_ok_iff, Except.ok.injEq, exists_and_left]

theorem decide_eq_ok_iff :
    decide files settings paths request = .ok decision ↔
      Decides files settings paths request decision := by
  constructor
  · intro decided
    cases resolved : paths.resolve settings.policy with
    | error _ =>
        rw [decide_of_unresolved resolved] at decided
        cases decided
    | ok found =>
        cases loaded : (Engine.ofRegistry Registry.builtin).loadFiles files found.1 found.2 with
        | error _ =>
            rw [decide_of_unloaded resolved loaded] at decided
            cases decided
        | ok engine =>
            rw [decide_of_loaded resolved loaded] at decided
            obtain ⟨_, _, read, built, rfl⟩ := CheckRequest.decideBy_eq_ok_iff.mp decided
            exact .intro resolved loaded read built
  · rintro ⟨resolved, loaded, read, built⟩
    rw [decide_of_loaded resolved loaded]
    exact CheckRequest.decideBy_eq_ok_iff.mpr ⟨_, _, read, built, rfl⟩

theorem CheckRequest.isLine_of_head {head : RequestHead} (built : request.head = .ok head) :
    Text.IsLine (Text.Ascii.upper head.method) ∧ Text.IsLine head.path := by
  unfold CheckRequest.head at built
  obtain ⟨_, _, accepted⟩ := Checks.bind_eq_ok_iff.mp built
  dsimp only at accepted
  split at accepted
  · rename_i found
    cases accepted
    obtain ⟨same, method, path⟩ := RequestHead.method_path_of_build found
    rw [same, Text.Ascii.upper_upper]
    exact ⟨method, path⟩
  · cases accepted

/-- An engine never decides about a path that cannot be decoded, so the only wording of a
refusal that is printed is the one with caller, method and path. -/
theorem Decides.isLine_message (decides : Decides files settings paths request decision) :
    Text.IsLine decision.message := by
  obtain ⟨resolved, loaded, read, built⟩ := decides
  generalize authorized : (Engine.authorize _ _ _ _ _).1 = decision
  cases decision with
  | allow => decide
  | notAllowed => decide
  | denied refusal =>
      obtain ⟨_, _, rfl⟩ := Engine.authorize_eq_denied_iff.mp authorized
      obtain ⟨method, path⟩ := CheckRequest.isLine_of_head built
      exact Text.isLine_append.mpr ⟨by decide, Refusal.isLine_message method path⟩

end Decides

/-! ### The outcome -/

/-- An outcome tells a decision: its output is one line, and each decision has its own line and
its exit status. -/
structure Outcome.Tells (outcome : Outcome) (decision : Decision) : Prop where
  oneLine : ∃ line, outcome.output = line ++ "\n" ∧ Text.IsLine line
  allow : outcome.output = "allow\n" ∧ outcome.status = 0 ↔ decision = .allow
  notAllowed : outcome.output = "not allowed\n" ∧ outcome.status = 1 ↔ decision = .notAllowed
  denied : "denied: ".toList <+: outcome.output.toList ∧ outcome.status = 1 ↔
    ∃ refusal, decision = .denied refusal

/-- The output and the exit status of a run that failed. -/
structure Outcome.IsFailure (outcome : Outcome) : Prop where
  output : outcome.output = ""
  status : outcome.status = 2

/-- The lines of the three decisions begin with different characters. -/
theorem tells_message {decision : Decision} (line : Text.IsLine decision.message) :
    Outcome.Tells ⟨decisionStatus decision, decision.message ++ "\n", false, none⟩ decision where
  oneLine := ⟨_, rfl, line⟩
  allow := by
    cases decision with
    | allow => decide
    | notAllowed => decide
    | denied refusal => simp [Decision.message, String.ext_iff]
  notAllowed := by
    cases decision with
    | allow => decide
    | notAllowed => decide
    | denied refusal => simp [Decision.message, String.ext_iff]
  denied := by
    cases decision with
    | allow => simp [Decision.message]
    | notAllowed => simp [Decision.message]
    | denied refusal =>
        simp [Decision.message, decisionStatus, Decision.isAllowed, statusNotAllowed]

section Outcome

variable {files : Files} {settings : Config.Settings} {paths : DocumentPaths}
  {request : CheckRequest} {decision : Decision}

theorem outcome_of_decides (decides : Decides files settings paths request decision) :
    (Command.check paths request).outcome files settings =
      ⟨decisionStatus decision, decision.message ++ "\n", false, none⟩ := by
  rw [Command.outcome, checkRequest, decide_eq_ok_iff.mpr decides]
  rfl

theorem isFailure_of_not_decides
    (fails : ∀ decision, ¬Decides files settings paths request decision) :
    ((Command.check paths request).outcome files settings).IsFailure := by
  cases decided : decide files settings paths request with
  | ok decision => exact absurd (decide_eq_ok_iff.mp decided) (fails decision)
  | error report =>
      rw [Command.outcome, checkRequest, decided]
      exact ⟨rfl, rfl⟩

end Outcome

/-- A check that succeeds prints one line, whatever the request and the documents hold: the
line and the exit status tell what the engine decides. A check that fails prints nothing and
ends with the status of a failure. So does every run of an accepted command line for a check,
which fails as well when its configuration cannot be loaded. -/
theorem check_tells_decision (files : Files) (paths : DocumentPaths) (request : CheckRequest) :
    (∀ settings,
      (∀ decision, (checkRequest files settings paths request).result = .ok decision ↔
        Decides files settings paths request decision) ∧
      (∀ decision, Decides files settings paths request decision →
        ((Command.check paths request).outcome files settings).Tells decision) ∧
      ((∀ decision, ¬Decides files settings paths request decision) →
        ((Command.check paths request).outcome files settings).IsFailure)) ∧
      ∀ environment arguments config,
        readArguments (environment Config.knownVariables.config) arguments =
            .ok ⟨config, .check paths request⟩ →
          (∀ settings, Invocation.settings ⟨config, .check paths request⟩ files environment =
              .ok settings →
            run files environment arguments =
              (Command.check paths request).outcome files settings) ∧
          ∀ report, Invocation.settings ⟨config, .check paths request⟩ files environment =
              .error report →
            (run files environment arguments).IsFailure := by
  refine ⟨fun settings => ⟨fun decision => ?_, fun decision decides => ?_,
    isFailure_of_not_decides⟩, fun environment arguments config accepted => ⟨?_, ?_⟩⟩
  · rw [← decide_eq_ok_iff, checkRequest]
    cases decide files settings paths request <;> simp [Written.fail]
  · rw [outcome_of_decides decides]
    exact tells_message decides.isLine_message
  · intro settings configured
    rw [run, accepted]
    show Invocation.outcome _ files environment = _
    rw [Invocation.outcome, configured]
  · intro report unconfigured
    rw [run, accepted]
    show Outcome.IsFailure (Invocation.outcome _ files environment)
    rw [Invocation.outcome, unconfigured]
    exact ⟨rfl, rfl⟩

namespace ForgedSample

/-- A rule for every path. -/
def everything : Rule := (Rule.onPath "/**").withMethod "GET" .unrestricted

/-- A rule for one path. -/
def admin : Rule := (Rule.onPath "/admin").withMethod "GET" .unrestricted

/-- Everything is allowed, and one path is denied. -/
def files : Files := fun path =>
  if path = "allow.json" then
    .ok (Text.Utf8.encode
      (Json.array [Document.allowEntryJson ⟨"github", [⟨"*", [], [everything]⟩]⟩]).render)
  else if path = "deny.json" then
    .ok (Text.Utf8.encode
      (Json.array [Document.denyEntryJson ⟨"github", [⟨"*", [admin]⟩]⟩]).render)
  else .error .missing

/-- No variable is set. -/
def environment : Config.Environment := fun _ => none

/-- A command line whose caller holds a line break and the line of another decision. -/
def arguments : List String :=
  ["check", "--allowlist", "allow.json", "--denylist", "deny.json", "--integration", "github",
    "--caller", "ci\nallow", "--path", "/admin"]

/-- The documents of the command line. -/
def paths : DocumentPaths := ⟨some "allow.json", some "deny.json"⟩

/-- The request of the command line. -/
def request : CheckRequest :=
  ⟨"github", "ci\nallow", "GET", "/admin", [], none, none, none, none⟩

/-- The settings where nothing is configured. -/
def settings : Config.Settings := Config.Layer.empty.complete

/-- The decision about the request. -/
def decision : Decision := .denied (.forbidden "ci\nallow" "GET" "/admin")

theorem decides : Decides files settings paths request decision :=
  decide_eq_ok_iff.mp (by decide +kernel)

theorem configured :
    Invocation.settings ⟨none, .check paths request⟩ files environment = .ok settings := by
  have loaded : Config.load files environment = .ok settings :=
    (Config.loadFrom_of_missing (by decide +kernel)).trans (by decide +kernel)
  rw [Invocation.settings, loaded]

end ForgedSample

open ForgedSample in
theorem check_tells_decision_sample :
    (run files environment arguments).Tells decision ∧
      (run files environment arguments).output =
        "denied: caller \"ci\\nallow\" is denied GET /admin\n" := by
  obtain ⟨always, onRun⟩ := check_tells_decision files paths request
  obtain ⟨runs, _⟩ := onRun environment arguments none (by decide +kernel)
  obtain ⟨_, tells, _⟩ := always settings
  rw [runs settings configured]
  exact ⟨tells decision decides, by rw [outcome_of_decides decides]; decide +kernel⟩

end CommandLine

end CallPolicy
