import CallPolicy.Json.Basic
import CallPolicy.Path
import CallPolicy.Text.Ascii

/-!
Contract: rules about calls.

Owns:
- constraints on headers, query and body of a request;
- rules, which hold one constraint for each method on a path pattern;
- preparation of a rule for look-ups by segments and upper-case method.

Does not own: whether a rule is acceptable, and whether a request meets a
constraint.
-/

namespace CallPolicy

/-- What a request has to show beyond path and method. Each header and query name
needs all its values among those of the request; the body has to hold the members
given here. -/
structure Constraint where
  headers : Keyed (List String)
  query : Keyed (List String)
  body : Keyed Json
deriving DecidableEq, Repr

namespace Constraint

/-- The constraint that every request meets. -/
def unrestricted : Constraint := ⟨Keyed.empty, Keyed.empty, Keyed.empty⟩

instance : Inhabited Constraint := ⟨unrestricted⟩

/-- Whether nothing is asked for. -/
def isEmpty (constraint : Constraint) : Bool :=
  constraint.headers.isEmpty && constraint.query.isEmpty && constraint.body.isEmpty

/-- Asks for one more header value. -/
def withHeader (constraint : Constraint) (name value : String) : Constraint :=
  { constraint with headers := constraint.headers.addValue name value }

/-- Asks for one more query value. -/
def withQuery (constraint : Constraint) (name value : String) : Constraint :=
  { constraint with query := constraint.query.addValue name value }

/-- Asks for a member of the body, in place of the one under the same name. -/
def withBodyField (constraint : Constraint) (name : String) (value : Json) : Constraint :=
  { constraint with body := constraint.body.insert name value }

end Constraint

/-- A path pattern with the methods it covers. The segments are empty until the
rule is prepared. -/
structure Rule where
  path : String
  methods : Keyed Constraint
  segments : List String
deriving DecidableEq, Inhabited, Repr

namespace Rule

/-- A rule that covers no method yet. -/
def onPath (path : String) : Rule := ⟨path, Keyed.empty, []⟩

/-- Covers one method. -/
def withMethod (rule : Rule) (method : String) (constraint : Constraint) : Rule :=
  { rule with methods := rule.methods.insert method constraint }

/-- Splits the path and writes the methods in upper case. Of two methods that
become one the later in order counts. -/
def prepare (rule : Rule) : Rule where
  path := rule.path
  methods := Keyed.ofList (rule.methods.entries.map fun entry =>
    (Text.Ascii.upper entry.1, entry.2))
  segments := Path.clean rule.path

/-- Whether the prepared rule covers a path. -/
def covers (rule : Rule) (segments : List String) : Bool :=
  Path.matchSegments rule.segments segments

end Rule

end CallPolicy
