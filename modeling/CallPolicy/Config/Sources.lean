import CallPolicy.Config.Read

/-!
Contract: where configuration comes from.

Owns:
- the sources, with their names and their order;
- the layer that the environment gives;
- loading of complete settings.

Does not own: the documents that sources read.
-/

namespace CallPolicy.Config

/-- The variables of the environment. -/
abbrev Environment := String → Option String

/-- The file that holds the configuration of the system. -/
def systemPath : String := "/etc/warden/server.toml"

/-- The names of environment variables. -/
structure VariableNames where
  config : String
  allowlistPath : String
  denylistPath : String
  maxBodyBytes : String
  logLevel : String
  logFormat : String
deriving Repr

/-- The names of the variables that are looked at. -/
def knownVariables : VariableNames where
  config := "WARDEN_CONFIG"
  allowlistPath := "WARDEN_ALLOWLIST_PATH"
  denylistPath := "WARDEN_DENYLIST_PATH"
  maxBodyBytes := "WARDEN_MAX_BODY_BYTES"
  logLevel := "WARDEN_LOG_LEVEL"
  logFormat := "WARDEN_LOG_FORMAT"

/-- The greatest number that is accepted for a size. -/
def countLimit : Nat := 0xFFFFFFFFFFFFFFFF

/-- A number written in decimal, with or without a plus sign. -/
def count? (text : String) : Option Nat :=
  let digits :=
    match text.toList with
    | '+' :: rest => rest
    | chars => chars
  if digits.isEmpty || !digits.all Char.isDigit then none
  else
    let value := digits.foldl (fun value digit => value * 10 + (digit.toNat - '0'.toNat)) 0
    if value ≤ countLimit then some value else none

namespace Environment

/-- The value of a variable. An empty one counts as absent. -/
def value? (environment : Environment) (name : String) : Option String :=
  (environment name).filter fun value => !value.isEmpty

/-- The number in a variable. -/
def countOf (environment : Environment) (name : String) : Except ConfigError (Option Nat) :=
  match environment.value? name with
  | none => .ok none
  | some text =>
      match count? text with
      | some value => .ok (some value)
      | none => .error (.badValue name ("invalid usize value \x27" ++ text ++ "\x27"))

/-- The log format in a variable. -/
def formatOf (environment : Environment) (name : String) :
    Except ConfigError (Option LogFormat) :=
  match environment.value? name with
  | none => .ok none
  | some text =>
      match LogFormat.parse text with
      | .ok format => .ok (some format)
      | .error problem => .error (.badValue name problem)

/-- The layer that the environment gives. Both sections are there, even without
fields. -/
def layer (environment : Environment) : Except ConfigError Layer := do
  let maxBodyBytes ← environment.countOf knownVariables.maxBodyBytes
  let format ← environment.formatOf knownVariables.logFormat
  .ok {
    policy := some {
      allowlistPath := environment.value? knownVariables.allowlistPath
      denylistPath := environment.value? knownVariables.denylistPath
      maxBodyBytes }
    logging := some { level := environment.value? knownVariables.logLevel, format } }

end Environment

/-- The layer of a file. A file that is not there gives the empty layer. -/
def fileLayer (files : Files) (path : String) : Except ConfigError Layer :=
  if !files.holds path then .ok Layer.empty
  else
    match files.readText path with
    | .error failure => .error (.unreadable path failure)
    | .ok text =>
        match tomlLayer? text with
        | some layer => .ok layer
        | none => .error (.malformed path)

/-- A source as a loader meets it: the precedence of its layer, and the layer or why there
is none. -/
structure LayerSource where
  precedence : Nat
  layer : Except ConfigError Layer

/-- Lays the layers of sources over one another, in the order of their
precedence. -/
def mergeSources (sources : List LayerSource) : Except ConfigError Layer :=
  (sources.mergeSort fun left right => left.precedence ≤ right.precedence).foldlM
    (fun merged source => do
      .ok (merged.merge (← source.layer)))
    Layer.empty

/-- The settings from sources. -/
def loadSources (sources : List LayerSource) : Except ConfigError Settings := do
  (← mergeSources sources).settings

/-- The sources that there are. -/
inductive SourceKind where
  | defaults
  | file
  | environment
deriving DecidableEq, Repr

namespace SourceKind

/-- All sources, in no particular order. -/
def all : List SourceKind := [.defaults, .file, .environment]

/-- The name of a source. -/
def name : SourceKind → String
  | .defaults => "defaults"
  | .file => "toml-config"
  | .environment => "environment"

/-- The precedence of a source: the greater one is laid over the smaller. -/
def precedence : SourceKind → Nat
  | .defaults => 10
  | .file => 20
  | .environment => 50

/-- The layer that a source gives. -/
def layer (files : Files) (environment : Environment) (path : String) :
    SourceKind → Except ConfigError Layer
  | .defaults => .ok Layer.empty
  | .file => fileLayer files path
  | .environment => environment.layer

/-- A source with its precedence and its layer. -/
def source (files : Files) (environment : Environment) (path : String)
    (kind : SourceKind) : LayerSource :=
  ⟨kind.precedence, kind.layer files environment path⟩

end SourceKind

/-- The settings from all sources, with the file at a path. -/
def loadFrom (files : Files) (environment : Environment) (path : String) :
    Except ConfigError Settings :=
  loadSources (SourceKind.all.map (SourceKind.source files environment path))

/-- The settings from all sources, with the file of the system. -/
def load (files : Files) (environment : Environment) : Except ConfigError Settings :=
  loadFrom files environment systemPath

/-- The settings from the environment alone. -/
def loadFromEnvironment (environment : Environment) : Except ConfigError Settings := do
  (Layer.empty.merge (← environment.layer)).settings

end CallPolicy.Config
