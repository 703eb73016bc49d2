import CallPolicy.Capability.Builtin
import CallPolicy.CommandLine.Documents
import CallPolicy.Document.ToJson
import CallPolicy.Json.Printer

/-!
Contract: the listing of capabilities.

Owns: which capabilities an integration can use, and the two forms of the listing.

Does not own: the capabilities.
-/

namespace CallPolicy.CommandLine

/-- Whether an integration, given by its key, can use a capability: one of its own,
or a global one whose name it does not use itself. -/
def isUsable (all : List CapabilityInfo) (integration : String) (info : CapabilityInfo) : Bool :=
  info.integration == integration ||
    (info.integration == globalIntegration &&
      !all.any fun other => other.integration == integration && other.name == info.name)

/-- The capabilities that an integration can use, or all of them. -/
def usable (all : List CapabilityInfo) : Option String → List CapabilityInfo
  | none => all
  | some integration => all.filter (isUsable all (integrationKey integration))

/-- A text with blanks up to a width. -/
def padded (width : Nat) (text : String) : String :=
  text ++ String.ofList (List.replicate (width - text.length) ' ')

/-- A parameter, with a star if it is needed. -/
def parameterLabel (info : CapabilityInfo) (name : String) : String :=
  if info.required.contains name then name ++ "*" else name

/-- The line of a capability in the table. -/
def tableLine (info : CapabilityInfo) : String :=
  padded 8 info.integration ++ " " ++ padded 32 info.name ++ " " ++
    ", ".intercalate (info.params.map (parameterLabel info))

/-- The listing, as a table or as JSON. -/
def listing (infos : List CapabilityInfo) (json : Bool) : String :=
  if json then
    String.ofList
      (Json.renderLines 0 (.array (infos.map Document.capabilityInfoJson)) ++ ['\n'])
  else
    lines (infos.map tableLine)

/-- Lists the built-in capabilities. -/
def listCapabilities (integration : Option String) (json : Bool) : String :=
  listing (usable Registry.builtin.capabilities integration) json

end CallPolicy.CommandLine
