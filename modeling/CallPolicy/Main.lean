import CallPolicy.CommandLine.Run

/-!
Contract: the program.

Owns: reading of files and of the environment, and writing of the outcome.

Does not own: everything else.
-/

namespace CallPolicy.CommandLine

/-- Why the system could not read a file. -/
def readFailure : IO.Error → ReadFailure
  | .permissionDenied _ _ _ => .forbidden
  | .inappropriateType _ code _ => if code = 20 then .notInDirectory else .directory
  | .invalidArgument _ code _ => if code = 36 then .nameTooLong else .missing
  | _ => .missing

/-- Reads a file. -/
def readPath (path : String) : IO (String × Except ReadFailure (List UInt8)) := do
  try
    let content ← IO.FS.readBinFile path
    return (path, .ok content.toList)
  catch failure =>
    return (path, .error (readFailure failure))

/-- Reads files. -/
def readPaths (paths : List String) : IO Files := do
  let contents ← paths.mapM readPath
  return fun path => (lookupEntry path contents).getD (.error .missing)

/-- Reads the variables that are looked at. -/
def readEnvironment : IO Config.Environment := do
  let known := Config.knownVariables
  let names := [known.config, known.allowlistPath, known.denylistPath, known.maxBodyBytes,
    known.logLevel, known.logFormat]
  let values ← names.mapM fun name => return (name, ← IO.getEnv name)
  return fun name => (lookupEntry name values).join

/-- Reads the files that a run needs: first the configuration, then what it and the
command name. -/
def readFiles (environment : Config.Environment) (arguments : List String) : IO Files := do
  match readArguments (environment Config.knownVariables.config) arguments with
  | .error _ => return fun _ => .error .missing
  | .ok invocation =>
      let before ← readPaths [invocation.settingsPath]
      match invocation.settings before environment with
      | .error _ => return before
      | .ok settings =>
          readPaths (invocation.settingsPath :: invocation.command.read settings)

/-- Writes the outcome of a run. -/
def writeOutcome (outcome : Outcome) : IO Unit := do
  IO.print outcome.output
  match outcome.report with
  | some report => IO.eprintln report
  | none => if outcome.status = statusFailed then IO.eprint helpText

end CallPolicy.CommandLine

open CallPolicy.CommandLine in
/-- Runs the program with its arguments and gives the exit status. -/
def main (arguments : List String) : IO UInt32 := do
  let environment ← readEnvironment
  let files ← readFiles environment arguments
  let outcome := run files environment arguments
  writeOutcome outcome
  return outcome.status.toUInt32
