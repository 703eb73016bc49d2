import CallPolicy.Config.Settings
import CallPolicy.PolicyError

/-!
Contract: what a command leaves behind.

Owns: reports of failure with their causes, and the outcome of a whole run.

Does not own: the commands.
-/

namespace CallPolicy.CommandLine

/-- Why a command failed: what was being done, from the outside to the inside. -/
structure Report where
  causes : List String
deriving DecidableEq, Repr

namespace Report

/-- A report with a single cause. -/
def ofMessage (message : String) : Report := ⟨[message]⟩

/-- The report of an error in policy documents. -/
def ofPolicyError (error : PolicyError) : Report :=
  ⟨error.message :: error.cause?.toList⟩

/-- The report of an error in the configuration. -/
def ofConfigError (error : ConfigError) : Report :=
  ⟨error.message :: error.cause?.toList⟩

/-- Says what was being done. -/
def during (report : Report) (activity : String) : Report :=
  ⟨activity :: report.causes⟩

/-- The text of a report. -/
def message (report : Report) : String :=
  "error: " ++ ": ".intercalate report.causes

end Report

/-- A command's result together with what it wrote before it ended. -/
structure Written (α : Type) where
  output : String
  result : Except Report α

/-- Ends without a result. -/
def Written.fail {α : Type} (output : String) (report : Report) : Written α :=
  ⟨output, .error report⟩

/-- How a run ended: the exit status, what was written, and the report of what went
wrong. Arguments that were not accepted are told apart. -/
structure Outcome where
  status : Nat
  output : String
  rejected : Bool
  report : Option String
deriving DecidableEq, Repr

end CallPolicy.CommandLine
