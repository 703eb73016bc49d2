import CallPolicy.CommandLine.Check
import CallPolicy.CommandLine.Listing

/-!
Contract: a whole run of the program.

Owns: the settings of a run, the files that it reads, and its outcome.

Does not own: reading of files and writing of output, which happen outside.
-/

namespace CallPolicy.CommandLine

/-- The text that names the program and its version. -/
def versionText : String := "warden 0.1.0\n"

/-- The text that says how the program is called. -/
def helpText : String :=
  lines [
    "Usage: warden [--config FILE] COMMAND [OPTIONS]",
    "",
    "Commands:",
    "  lint          Validate allowlist and denylist documents",
    "  check         Evaluate a single request against the policy documents",
    "  capabilities  List the capabilities policies may reference"]

/-- The exit status of a request that may not be made. -/
def statusNotAllowed : Nat := 1

/-- The exit status of a run that failed. -/
def statusFailed : Nat := 2

/-- The outcome of a run that does not get to a command. -/
def Refusal.outcome : Refusal → Outcome
  | .rejected => ⟨statusFailed, "", true, none⟩
  | .nothingAsked => ⟨statusFailed, "", false, none⟩
  | .help => ⟨0, helpText, false, none⟩
  | .version => ⟨0, versionText, false, none⟩

/-- The outcome of what a command wrote, with the exit status of its result. -/
def Written.outcome {α : Type} (written : Written α) (status : α → Nat) : Outcome :=
  match written.result with
  | .ok result => ⟨status result, written.output, false, none⟩
  | .error report => ⟨statusFailed, written.output, false, some report.message⟩

/-- The settings of a run. -/
def Invocation.settings (invocation : Invocation) (files : Files)
    (environment : Config.Environment) : Except Report Config.Settings :=
  match invocation.config with
  | some path =>
      match Config.loadFrom files environment path with
      | .ok settings => .ok settings
      | .error error =>
          .error ((Report.ofConfigError error).during ("loading config from " ++ path))
  | none =>
      match Config.load files environment with
      | .ok settings => .ok settings
      | .error error => .error ((Report.ofConfigError error).during "loading config")

/-- The exit status of a decision. -/
def decisionStatus (decision : Decision) : Nat :=
  if decision.isAllowed then 0 else statusNotAllowed

/-- The outcome of a command. -/
def Command.outcome (files : Files) (settings : Config.Settings) : Command → Outcome
  | .lint paths => (lintDocuments files settings paths).outcome fun _ => 0
  | .check paths request => (checkRequest files settings paths request).outcome decisionStatus
  | .capabilities integration json => ⟨0, listCapabilities integration json, false, none⟩

/-- The outcome of an accepted command line. -/
def Invocation.outcome (invocation : Invocation) (files : Files)
    (environment : Config.Environment) : Outcome :=
  match invocation.settings files environment with
  | .ok settings => invocation.command.outcome files settings
  | .error report => ⟨statusFailed, "", false, some report.message⟩

/-- Runs the program. -/
def run (files : Files) (environment : Config.Environment) (arguments : List String) :
    Outcome :=
  match readArguments (environment Config.knownVariables.config) arguments with
  | .error refusal => refusal.outcome
  | .ok invocation => invocation.outcome files environment

/-- The file that holds the configuration of a run. -/
def Invocation.settingsPath (invocation : Invocation) : String :=
  invocation.config.getD Config.systemPath

/-- The documents that a command may read. -/
def DocumentPaths.read (paths : DocumentPaths) (settings : Config.Settings) : List String :=
  (paths.allowlist.or settings.policy.allowlistPath).toList ++
    (paths.denylist.or settings.policy.denylistPath).toList

/-- The files that a command may read. -/
def Command.read (settings : Config.Settings) : Command → List String
  | .lint paths => paths.read settings
  | .check paths request => paths.read settings ++ request.bodyFile.toList
  | .capabilities _ _ => []

end CallPolicy.CommandLine
