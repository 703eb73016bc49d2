import CallPolicy.Allowlist
import CallPolicy.Capability.Builtin
import CallPolicy.CommandLine.Arguments
import CallPolicy.CommandLine.Report
import CallPolicy.Denylist
import CallPolicy.Document.Read

/-!
Contract: which policy documents a command uses, and what is said about them.

Owns: the choice of documents, and the summary of valid ones.

Does not own: what makes a document valid.
-/

namespace CallPolicy.CommandLine

/-- The paths of the documents: those of the command line, or else those of the
configuration. -/
def DocumentPaths.resolve (paths : DocumentPaths) (settings : Config.PolicySettings) :
    Except Report (String × Option String) :=
  match paths.allowlist.or settings.allowlistPath with
  | some allowlist => .ok (allowlist, paths.denylist.or settings.denylistPath)
  | none =>
      .error (Report.ofMessage
        "no allowlist given: pass --allowlist or set policy.allowlist_path")

/-- Ends each text with a line break. -/
def lines (texts : List String) : String :=
  String.join (texts.map fun text => text ++ "\n")

/-- What is said about an entry of an allowlist. -/
def allowSummary (entry : AllowEntry) : String :=
  "  allowlist " ++ entry.integration ++ ": " ++ toString entry.callers.length ++ " callers, " ++
    toString (entry.callers.flatMap AllowCaller.rules).length ++ " rules, " ++
    toString (entry.callers.flatMap AllowCaller.capabilities).length ++ " capabilities"

/-- What is said about an entry of a denylist. -/
def denySummary (entry : DenyEntry) : String :=
  "  denylist " ++ entry.integration ++ ": " ++ toString entry.callers.length ++ " callers, " ++
    toString (entry.callers.flatMap DenyCaller.rules).length ++ " rules"

/-- Puts an error of the entries of a document into words. -/
def invalid (kind path : String) (error : PolicyError) : Report :=
  (Report.ofPolicyError error).during ("invalid " ++ kind ++ " " ++ path)

/-- Checks an allowlist and sums it up. -/
def lintAllowlist (files : Files) (path : String) : Except Report String :=
  match Document.loadAllowlist files path with
  | .error error => .error (Report.ofPolicyError error)
  | .ok entries =>
      match Allowlist.build Registry.builtin entries with
      | .error error => .error (invalid "allowlist" path error)
      | .ok _ => .ok (lines ((path ++ ": ok") :: entries.map allowSummary))

/-- Checks a denylist and sums it up. -/
def lintDenylist (files : Files) (path : String) : Except Report String :=
  match Document.loadDenylist files path with
  | .error error => .error (Report.ofPolicyError error)
  | .ok entries =>
      match Denylist.build entries with
      | .error error => .error (invalid "denylist" path error)
      | .ok _ => .ok (lines ((path ++ ": ok") :: entries.map denySummary))

/-- Checks both documents, the allowlist first. What is said about a valid allowlist
is written even if the denylist is not valid. -/
def lintDocuments (files : Files) (settings : Config.Settings) (paths : DocumentPaths) :
    Written Unit :=
  match paths.resolve settings.policy with
  | .error report => .fail "" report
  | .ok (allowPath, denyPath) =>
      match lintAllowlist files allowPath with
      | .error report => .fail "" report
      | .ok allowed =>
          match denyPath with
          | none => ⟨allowed, .ok ()⟩
          | some path =>
              match lintDenylist files path with
              | .error report => .fail allowed report
              | .ok denied => ⟨allowed ++ denied, .ok ()⟩

end CallPolicy.CommandLine
