import CallPolicy.Text.Ascii

/-!
Contract: partial configuration that is laid over other configuration.

Owns: the sections of a layer, whose fields may all be absent, and merging of
layers.

Does not own: where layers come from, and the values of fields that no layer gives.
-/

namespace CallPolicy.Config

/-- How log lines are written. -/
inductive LogFormat where
  | pretty
  | json
deriving DecidableEq, Inhabited, Repr

namespace LogFormat

/-- The name of a format. -/
def name : LogFormat → String
  | .pretty => "pretty"
  | .json => "json"

/-- The format with exactly this name. -/
def ofName? (name : String) : Option LogFormat :=
  if name = "pretty" then some .pretty
  else if name = "json" then some .json
  else none

/-- Reads a format that a user writes, in any case. The error names it in lower
case. -/
def parse (text : String) : Except String LogFormat :=
  let name := Text.Ascii.lower text
  match ofName? name with
  | some format => .ok format
  | none => .error ("unknown log format \x27" ++ name ++ "\x27, expected pretty or json")

end LogFormat

/-- What a layer says about policy documents. -/
structure PolicyLayer where
  allowlistPath : Option String
  denylistPath : Option String
  maxBodyBytes : Option Nat
deriving DecidableEq, Repr

/-- What a layer says about logging. -/
structure LoggingLayer where
  level : Option String
  format : Option LogFormat
deriving DecidableEq, Repr

/-- A layer of configuration. -/
structure Layer where
  policy : Option PolicyLayer
  logging : Option LoggingLayer
deriving DecidableEq, Repr

/-- The section without fields. -/
def PolicyLayer.empty : PolicyLayer := ⟨none, none, none⟩

/-- The section without fields. -/
def LoggingLayer.empty : LoggingLayer := ⟨none, none⟩

/-- The layer without sections. -/
def Layer.empty : Layer := ⟨none, none⟩

/-- The fields of the upper section, and those of the lower one where it has
none. -/
def PolicyLayer.merge (lower upper : PolicyLayer) : PolicyLayer where
  allowlistPath := upper.allowlistPath.or lower.allowlistPath
  denylistPath := upper.denylistPath.or lower.denylistPath
  maxBodyBytes := upper.maxBodyBytes.or lower.maxBodyBytes

/-- The fields of the upper section, and those of the lower one where it has
none. -/
def LoggingLayer.merge (lower upper : LoggingLayer) : LoggingLayer where
  level := upper.level.or lower.level
  format := upper.format.or lower.format

/-- Merges a section that either layer may lack. -/
def mergeSection {α : Type} (merge : α → α → α) (empty : α) (lower : Option α) :
    Option α → Option α
  | none => lower
  | some upper => some (merge (lower.getD empty) upper)

/-- Lays one layer over another. -/
def Layer.merge (lower upper : Layer) : Layer where
  policy := mergeSection PolicyLayer.merge PolicyLayer.empty lower.policy upper.policy
  logging := mergeSection LoggingLayer.merge LoggingLayer.empty lower.logging upper.logging

end CallPolicy.Config
