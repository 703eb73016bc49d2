import CallPolicy.Config.Settings
import CallPolicy.Document.Node
import CallPolicy.Json.Members
import CallPolicy.Toml.Parser

/-!
Contract: configuration from documents.

Owns: the names of sections and fields, which of them may be absent, and how TOML
and JSON values answer for them.

Does not own: the text of either format.
-/

namespace CallPolicy.Config

/-- A part of a document from which configuration can be read. Each way gives nothing
when the part does not fit. -/
class Source (node : Type) where
  /-- A text. -/
  text? : node → Option String
  /-- A number that counts something. -/
  count? : node → Option Nat
  /-- The name of one of several choices. -/
  choice? : node → Option String
  /-- What is given for each of these fields, in their order. Fields may be left
  out, but no others may be given. -/
  fields? : List String → node → Option (List (Option node))

section Layers

variable {node : Type} [Source node]

/-- A field that may be absent. -/
def field {α : Type} (read : node → Option α) : Option node → Option (Option α)
  | none => some none
  | some given => (read given).map some

/-- The section about policy documents. -/
def policyLayer? (given : node) : Option PolicyLayer := do
  match ← Source.fields? ["allowlist_path", "denylist_path", "max_body_bytes"] given with
  | [allowlist, denylist, limit] =>
      some {
        allowlistPath := ← field Source.text? allowlist
        denylistPath := ← field Source.text? denylist
        maxBodyBytes := ← field Source.count? limit }
  | _ => none

/-- A log format, by its exact name. -/
def logFormat? (given : node) : Option LogFormat :=
  (Source.choice? given).bind LogFormat.ofName?

/-- The section about logging. -/
def loggingLayer? (given : node) : Option LoggingLayer := do
  match ← Source.fields? ["level", "format"] given with
  | [level, format] =>
      some { level := ← field Source.text? level, format := ← field logFormat? format }
  | _ => none

/-- A layer. -/
def layer? (given : node) : Option Layer := do
  match ← Source.fields? ["policy", "logging"] given with
  | [policy, logging] =>
      some {
        policy := ← field policyLayer? policy
        logging := ← field loggingLayer? logging }
  | _ => none

end Layers

/-- Whether a TOML value has nothing in it. -/
def isHollow : Toml → Bool
  | .array items => items.isEmpty
  | .table _ members => members.isEmpty
  | .tables elements => elements.isEmpty
  | _ => false

/-- TOML values as configuration. A record may be written as an array of all its
fields, which may go on behind them, and a choice as a table with one member that is
empty. -/
instance : Source Toml where
  text?
    | .string value => some value
    | _ => none
  count?
    | .integer value => if 0 ≤ value then some value.toNat else none
    | _ => none
  choice?
    | .string value => some value
    | .table _ [(name, content)] => if isHollow content then some name else none
    | _ => none
  fields? names
    | .table _ members => Document.fieldsOfMembers names members
    | .array items =>
        if names.length ≤ items.length then some ((items.take names.length).map some) else none
    | _ => none

/-- What JSON gives for a field, where null gives nothing. -/
def unlessNull : Json → Option Json
  | .null => none
  | value => some value

/-- JSON values as configuration. A record may be written as an array of exactly its
fields, and a choice as an object with one member that is null. -/
instance : Source Json where
  text? := Json.string?
  count?
    | .number (.integer value) => if 0 ≤ value then some value.toNat else none
    | _ => none
  choice?
    | .string value => some value
    | .object [(name, .null)] => some name
    | _ => none
  fields? names
    | .object members =>
        (Document.fieldsOfMembers names members).map fun fields =>
          fields.map fun given => given.bind unlessNull
    | .array items =>
        if items.length = names.length then some (items.map unlessNull) else none
    | _ => none

/-- The layer in a TOML text. -/
def tomlLayer? (text : String) : Option Layer :=
  (Toml.parse? text.toList).bind fun members => layer? (Toml.table .header members)

/-- The layer in a JSON text. -/
def jsonLayer? (text : String) : Option Layer :=
  (Json.parse? text.toList).bind layer?

/-- The fields of a complete section in a JSON text. In an object unknown names are
passed over, whatever their values hold; known ones must not be repeated. -/
def sectionFields? (names : List String) (text : String) : Option (List (Option Json)) := do
  let tokens ← Json.Token.ofText? text.toList
  match Json.members? tokens with
  | some members =>
      let known := members.filter fun member => names.contains member.1
      let read ← known.mapM fun member => member.2.map fun value => (member.1, value)
      Source.fields? names (Json.object read)
  | none => (Json.ofTokens? tokens).bind (Source.fields? names)

/-- The complete section about policy documents in a JSON text; the limit has to be
there. -/
def policySettings? (text : String) : Option PolicySettings := do
  match ← sectionFields? ["allowlist_path", "denylist_path", "max_body_bytes"] text with
  | [allowlist, denylist, limit] =>
      some {
        allowlistPath := ← field Source.text? allowlist
        denylistPath := ← field Source.text? denylist
        maxBodyBytes := ← limit.bind Source.count? }
  | _ => none

/-- The complete section about logging in a JSON text; both fields have to be
there. -/
def loggingSettings? (text : String) : Option LoggingSettings := do
  match ← sectionFields? ["level", "format"] text with
  | [level, format] =>
      some { level := ← level.bind Source.text?, format := ← format.bind logFormat? }
  | _ => none

end CallPolicy.Config
