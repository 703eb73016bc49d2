import CallPolicy.Body
import CallPolicy.Config.Layer
import CallPolicy.Files

/-!
Contract: complete configuration.

Owns:
- the settings that are made from a layer, with defaults for absent fields;
- the conditions on settings;
- the errors of configuration, and their wording.

Does not own: the sources of layers.
-/

namespace CallPolicy

/-- Why configuration is not accepted. -/
inductive ConfigError where
  | unreadable (path : String) (cause : ReadFailure)
  | malformed (path : String)
  | badValue (key : String) (problem : String)
  | inconsistent (problem : String)
deriving DecidableEq, Repr

namespace ConfigError

/-- The wording of an error. What a parser has to say about a malformed file is not
part of it. -/
def message : ConfigError → String
  | .unreadable path cause => "failed to read config file " ++ path ++ ": " ++ cause.message
  | .malformed path => "failed to parse config file " ++ path
  | .badValue key problem => "invalid value for " ++ key ++ ": " ++ problem
  | .inconsistent problem => "invalid configuration: " ++ problem

/-- The wording of the cause that lies below an error, if there is one. -/
def cause? : ConfigError → Option String
  | .unreadable _ cause => some cause.message
  | _ => none

end ConfigError

namespace Config

/-- Settings about policy documents. -/
structure PolicySettings where
  allowlistPath : Option String
  denylistPath : Option String
  maxBodyBytes : Nat
deriving DecidableEq, Repr

/-- Settings about logging. -/
structure LoggingSettings where
  level : String
  format : LogFormat
deriving DecidableEq, Repr

/-- Complete settings. -/
structure Settings where
  policy : PolicySettings
  logging : LoggingSettings
deriving DecidableEq, Repr

/-- The level of log lines where no other is configured. -/
def defaultLevel : String := "info"

/-- Fills in the fields that are absent. -/
def PolicyLayer.complete (layer : PolicyLayer) : PolicySettings where
  allowlistPath := layer.allowlistPath
  denylistPath := layer.denylistPath
  maxBodyBytes := layer.maxBodyBytes.getD defaultBodyLimit

/-- Fills in the fields that are absent. -/
def LoggingLayer.complete (layer : LoggingLayer) : LoggingSettings where
  level := layer.level.getD defaultLevel
  format := layer.format.getD .pretty

/-- Fills in everything that is absent. -/
def Layer.complete (layer : Layer) : Settings where
  policy := (layer.policy.getD PolicyLayer.empty).complete
  logging := (layer.logging.getD LoggingLayer.empty).complete

/-- Checks settings: bodies may have some bytes, and there is no denylist without
an allowlist. -/
def Settings.check (settings : Settings) : Except ConfigError Unit :=
  if settings.policy.maxBodyBytes = 0 then
    .error (.inconsistent "policy.max_body_bytes must be greater than zero")
  else if settings.policy.denylistPath.isSome && settings.policy.allowlistPath.isNone then
    .error (.inconsistent
      ("policy.denylist_path is set without policy.allowlist_path. " ++
        "A denylist only narrows what an allowlist grants."))
  else .ok ()

/-- The settings that a layer stands for, if they are consistent. -/
def Layer.settings (layer : Layer) : Except ConfigError Settings := do
  layer.complete.check
  .ok layer.complete

end Config

end CallPolicy
