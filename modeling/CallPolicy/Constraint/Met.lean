import CallPolicy.Body
import CallPolicy.Form
import CallPolicy.Json.Cover
import CallPolicy.Json.Parser
import CallPolicy.Request
import CallPolicy.Rule
import CallPolicy.Text.Blank

/-!
Contract: when a request meets a constraint.

Owns:
- the comparison of headers and query, which never touches the body;
- the comparison of a body by its media type;
- the evaluation of a whole constraint, which looks at the body last and only when
  the constraint asks about it.

Does not own: the choice of the constraint.
-/

namespace CallPolicy

/-- How the bytes of a body are read. -/
inductive MediaType where
  | json
  | form
deriving DecidableEq, Repr

namespace MediaType

/-- The media type of a header value: what stands before the first semicolon,
without regard to case and to blanks around it. A value with characters outside
visible ASCII names none. -/
def ofHeader? (value : List UInt8) : Option MediaType :=
  if value.all fun byte => (0x20 ≤ byte && byte ≤ 0x7E) || byte == 0x09 then
    let chars := value.map fun byte => Char.ofNat byte.toNat
    let name := String.ofList
      ((Text.trimChars (chars.takeWhile fun char => char != ';')).map Char.toLower)
    if name = "application/json" then some .json
    else if name = "application/x-www-form-urlencoded" then some .form
    else none
  else
    none

end MediaType

/-- The media type that the first content type of a request names. -/
def RequestHead.mediaType? (head : RequestHead) : Option MediaType :=
  (head.headerValues "content-type").head?.bind MediaType.ofHeader?

namespace Constraint

/-- Whether a request has a header with all the wanted values. A name that no
header can have is never satisfied. -/
def headerMet (head : RequestHead) (name : String) (wanted : List String) : Bool :=
  match headerName? (Text.Utf8.bytes name) with
  | none => false
  | some checked =>
      let present := head.headerValues checked
      !present.isEmpty && wanted.all fun value => present.contains (Text.Utf8.bytes value)

/-- Whether a request has all the wanted headers. -/
def headersMet (head : RequestHead) (wanted : Keyed (List String)) : Bool :=
  wanted.entries.all fun entry => headerMet head entry.1 entry.2

/-- Whether a form has all the wanted values. -/
def formHas (form : Form) (wanted : Keyed (List String)) : Bool :=
  wanted.entries.all fun entry =>
    match form.get? entry.1 with
    | some values => entry.2.all fun value => values.contains value
    | none => false

/-- Whether a request has all the wanted query values. A query that is no form data
has none. -/
def queryMet (head : RequestHead) (wanted : Keyed (List String)) : Bool :=
  wanted.isEmpty ||
    match Form.parse? (Text.Utf8.bytes (head.query.getD "")) with
    | none => false
    | some form => formHas form wanted

/-- Whether the values of a form field give what is wanted: a text, or several
texts. Nothing else can be asked of a form. -/
def fieldMet (values : List String) : Json → Bool
  | .string wanted => values.contains wanted
  | .array items =>
      items.all fun item =>
        match item.string? with
        | some wanted => values.contains wanted
        | none => false
  | _ => false

/-- Whether a form gives all the wanted members. -/
def formMet (form : Form) (wanted : Keyed Json) : Bool :=
  wanted.entries.all fun entry =>
    match form.get? entry.1 with
    | some values => fieldMet values entry.2
    | none => false

/-- Whether the bytes of a body give all the wanted members. -/
def contentMet (mediaType : Option MediaType) (bytes : List UInt8)
    (wanted : Keyed Json) : Bool :=
  match mediaType with
  | some .json =>
      match Json.parseBytes? bytes with
      | some (.object members) =>
          Json.coversMembers (Json.membersOf members).entries wanted.entries
      | _ => false
  | some .form =>
      match Form.parse? bytes with
      | some form => formMet form wanted
      | none => false
  | none => false

/-- Whether a body gives all the wanted members. One that cannot be had does not. -/
def outcomeMet (mediaType : Option MediaType) (outcome : BodyOutcome)
    (wanted : Keyed Json) : Bool :=
  match outcome with
  | .ok bytes => contentMet mediaType bytes wanted
  | .error _ => false

/-- Whether the head of a request gives all that is wanted of it. -/
def headMet (constraint : Constraint) (head : RequestHead) : Bool :=
  headersMet head constraint.headers && queryMet head constraint.query

/-- Whether a request meets the constraint. The body is looked at only when the
head gives all that is wanted of it and the constraint asks about the body. -/
def met (constraint : Constraint) (head : RequestHead) (body : Body) : Bool × Body :=
  if constraint.isEmpty then (true, body)
  else if !constraint.headMet head then (false, body)
  else if constraint.body.isEmpty then (true, body)
  else
    let (outcome, looked) := body.look
    (outcomeMet head.mediaType? outcome constraint.body, looked)

end Constraint

end CallPolicy
