import CallPolicy.Json.Basic
import CallPolicy.Text.Blank
import CallPolicy.Text.Quoted

/-!
Contract: parameters of capabilities.

Owns: the reasons for refusing parameters, and reading of texts and lists of texts
from them.

Does not own: which parameters a capability knows.
-/

namespace CallPolicy

/-- Why a capability refuses its parameters. -/
inductive CapabilityError where
  | missing (name : String)
  | invalid (name : String) (problem : String)
deriving DecidableEq, Repr

/-- The wording of a refusal. -/
def CapabilityError.message : CapabilityError → String
  | .missing name => "missing required parameter " ++ Text.quote name
  | .invalid name problem => "parameter " ++ Text.quote name ++ " " ++ problem

/-- Named parameters. -/
abbrev Params := Keyed Json

namespace Params

/-- Whether a text holds nothing but white space. -/
def isBlankText (text : String) : Bool :=
  (Text.trim text).isEmpty

/-- A text that has to be there and must not be blank. -/
def requiredText (params : Params) (name : String) : Except CapabilityError String :=
  match params.get? name with
  | none | some .null => .error (.missing name)
  | some (.string value) =>
      if isBlankText value then .error (.invalid name "must not be empty") else .ok value
  | some _ => .error (.invalid name "must be a string")

/-- A text that may be absent or null, but not blank. -/
def optionalText (params : Params) (name : String) :
    Except CapabilityError (Option String) :=
  match params.get? name with
  | none | some .null => .ok none
  | some _ => (requiredText params name).map some

/-- A list of texts that may be absent or null. -/
def optionalTexts (params : Params) (name : String) :
    Except CapabilityError (Option (List String)) :=
  match params.get? name with
  | none | some .null => .ok none
  | some (.array items) =>
      match items.mapM Json.string? with
      | some texts => .ok (some texts)
      | none => .error (.invalid name "must be a list of strings")
  | some _ => .error (.invalid name "must be a list of strings")

end Params

end CallPolicy
