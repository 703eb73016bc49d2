import CallPolicy.Text.Ascii
import CallPolicy.Text.Utf8
import CallPolicy.Uri

/-!
Contract: the head of a request.

Owns: methods, header names and header values, and building a head from texts
that may be refused.

Does not own: the body, which is read apart from the head.
-/

namespace CallPolicy

/-- Why a head cannot be built. -/
inductive RequestError where
  | method
  | uri (cause : UriError)
  | headerName
  | headerValue
deriving DecidableEq, Repr

/-- The wording of a refusal. -/
def RequestError.message : RequestError → String
  | .method => "invalid HTTP method"
  | .uri cause => cause.message
  | .headerName => "invalid HTTP header name"
  | .headerValue => "failed to parse header value"

/-- A header name is a token of limited length; it is kept in lower case. -/
def headerName? (name : List UInt8) : Option String :=
  let chars := name.map fun byte => Char.ofNat byte.toNat
  if !chars.isEmpty && chars.length ≤ 65535 && chars.all Text.Ascii.isTokenChar then
    some (String.ofList (chars.map Char.toLower))
  else
    none

/-- Header values hold no controls except the tab. -/
def isHeaderValue (value : List UInt8) : Bool :=
  value.all fun byte => (0x20 ≤ byte && byte != 0x7F) || byte == 0x09

/-- The head of a request: method and path as written, the query, and the headers
in order with their names in lower case. -/
structure RequestHead where
  method : String
  path : String
  query : Option String
  headers : List (String × List UInt8)
deriving DecidableEq, Repr

namespace RequestHead

/-- Checks one header. -/
def header (name value : List UInt8) : Except RequestError (String × List UInt8) :=
  match headerName? name with
  | none => .error .headerName
  | some checked => if isHeaderValue value then .ok (checked, value) else .error .headerValue

/-- Builds a head. The first part that is refused decides: the method, the target,
then the headers in order. -/
def build (method uri : String) (headers : List (List UInt8 × List UInt8)) :
    Except RequestError RequestHead :=
  if !Text.Ascii.isToken method then .error .method
  else
    match Uri.parse uri with
    | .error cause => .error (.uri cause)
    | .ok target => do
        let checked ← headers.mapM fun pair => header pair.1 pair.2
        .ok { method, path := target.path, query := target.query, headers := checked }

/-- The values of a header, in order. -/
def headerValues (head : RequestHead) (name : String) : List (List UInt8) :=
  head.headers.filterMap fun pair => if pair.1 = name then some pair.2 else none

end RequestHead

end CallPolicy
