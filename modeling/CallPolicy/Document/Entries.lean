import CallPolicy.Document.Node
import CallPolicy.Entry

/-!
Contract: entries of policy documents, in any format.

Owns: the fields of each record, which of them may be left out, and what stands for
those that are.

Does not own: document text.
-/

namespace CallPolicy.Document

variable {node : Type} [Node node]

/-- A field that may be left out. -/
def optionalField {β : Type} (read : node → Option β) (absent : β) : Option node → Option β
  | none => some absent
  | some given => read given

/-- A field that has to be there. -/
def requiredField {β : Type} (read : node → Option β) (field : Option node) : Option β :=
  field.bind read

/-- A list of parts that are read alike. -/
def list? {β : Type} (read : node → Option β) (given : node) : Option (List β) := do
  (← Node.items? given).mapM read

/-- A map whose values are read alike; of several members with one name the last
counts. -/
def map? {β : Type} (read : node → Option β) (given : node) : Option (Keyed β) := do
  let members ← Node.members? given
  let entries ← members.mapM fun member => (read member.2).map fun value => (member.1, value)
  some (Keyed.ofList entries)

/-- A list of texts. -/
def texts? (given : node) : Option (List String) :=
  list? Node.text? given

/-- A constraint; every part may be left out. -/
def constraint? (given : node) : Option Constraint := do
  match ← Node.fields? ["headers", "query", "body"] given with
  | [headers, query, body] =>
      some {
        headers := ← optionalField (map? texts?) Keyed.empty headers
        query := ← optionalField (map? texts?) Keyed.empty query
        body := ← optionalField (map? Node.value?) Keyed.empty body }
  | _ => none

/-- A rule; the path has to be there. -/
def rule? (given : node) : Option Rule := do
  match ← Node.fields? ["path", "methods"] given with
  | [path, methods] =>
      some {
        path := ← requiredField Node.text? path
        methods := ← optionalField (map? constraint?) Keyed.empty methods
        segments := [] }
  | _ => none

/-- A declared capability; the name has to be there. -/
def capabilityUse? (given : node) : Option CapabilityUse := do
  match ← Node.fields? ["name", "params"] given with
  | [name, params] =>
      some {
        name := ← requiredField Node.text? name
        params := ← optionalField (map? Node.value?) Keyed.empty params }
  | _ => none

/-- A caller of an allowlist; every part may be left out. -/
def allowCaller? (given : node) : Option AllowCaller := do
  match ← Node.fields? ["id", "capabilities", "rules"] given with
  | [id, capabilities, rules] =>
      some {
        id := ← optionalField Node.text? "" id
        capabilities := ← optionalField (list? capabilityUse?) [] capabilities
        rules := ← optionalField (list? rule?) [] rules }
  | _ => none

/-- An entry of an allowlist; the integration has to be there. -/
def allowEntry? (given : node) : Option AllowEntry := do
  match ← Node.fields? ["integration", "callers"] given with
  | [integration, callers] =>
      some {
        integration := ← requiredField Node.text? integration
        callers := ← optionalField (list? allowCaller?) [] callers }
  | _ => none

/-- A caller of a denylist; the rules have to be there. -/
def denyCaller? (given : node) : Option DenyCaller := do
  match ← Node.fields? ["id", "rules"] given with
  | [id, rules] =>
      some {
        id := ← optionalField Node.text? "" id
        rules := ← requiredField (list? rule?) rules }
  | _ => none

/-- An entry of a denylist; the integration has to be there. -/
def denyEntry? (given : node) : Option DenyEntry := do
  match ← Node.fields? ["integration", "callers"] given with
  | [integration, callers] =>
      some {
        integration := ← requiredField Node.text? integration
        callers := ← optionalField (list? denyCaller?) [] callers }
  | _ => none

end CallPolicy.Document
