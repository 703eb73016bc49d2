import CallPolicy.Text.Split
import CallPolicy.Text.Utf8

/-!
Contract: the target of a request.

Owns: the path and the query of a target, read from its text, and the reasons for
refusing one.

Does not own: segments and decoding of the path.
-/

namespace CallPolicy

/-- Why a target is refused. -/
inductive UriError where
  | empty
  | tooLong
  | badChar
  | badAuthority
  | badFormat
  | schemeTooLong
deriving DecidableEq, Repr

/-- The wording of a refusal. -/
def UriError.message : UriError → String
  | .empty => "empty string"
  | .tooLong => "uri too long"
  | .badChar => "invalid uri character"
  | .badAuthority => "invalid authority"
  | .badFormat => "invalid format"
  | .schemeTooLong => "scheme too long"

/-- A target: the path as written and the query without its question mark. -/
structure Uri where
  path : String
  query : Option String
deriving DecidableEq, Repr

namespace Uri

/-- The greatest number of bytes. -/
def lengthLimit : Nat := 65534

/-- The greatest length of a scheme. -/
def schemeLimit : Nat := 64

/-- The characters of a path. -/
def isPathChar (char : Char) : Bool :=
  let code := char.toNat
  code == 0x21 || code == 0x22 || (0x24 ≤ code && code ≤ 0x3B) || code == 0x3D ||
    (0x40 ≤ code && code ≤ 0x5F) || (0x61 ≤ code && code ≤ 0x7E) || 0x80 ≤ code

/-- The characters of a query. -/
def isQueryChar (char : Char) : Bool :=
  let code := char.toNat
  code == 0x21 || (0x24 ≤ code && code ≤ 0x3B) || code == 0x3D ||
    (0x3F ≤ code && code ≤ 0x7E) || 0x80 ≤ code

/-- The characters of a scheme. -/
def isSchemeChar (char : Char) : Bool :=
  char.isAlphanum || char == '+' || char == '-' || char == '.' || char == '~'

/-- The punctuation of an authority that has no further meaning. -/
def authorityMarks : List Char :=
  ['!', '$', '&', '\x27', '(', ')', '*', '+', ',', '-', '.', ';', '=', '_', '~']

/-- What is known about an authority after some of its characters. -/
structure AuthorityState where
  colons : Nat
  opened : Bool
  closed : Bool
  percent : Bool
  endsWithAt : Bool
deriving DecidableEq, Repr

/-- One character of an authority. A user part ends at an at sign and an address
in brackets at its closing bracket; both may hold colons and percent signs, a host
holds at most one colon. -/
def AuthorityState.step (state : AuthorityState) (char : Char) :
    Except UriError AuthorityState :=
  let state := { state with endsWithAt := char == '@' }
  if char = ':' then
    if 8 ≤ state.colons then .error .badAuthority
    else .ok { state with colons := state.colons + 1 }
  else if char = '[' then
    if state.percent || state.opened then .error .badAuthority
    else .ok { state with opened := true }
  else if char = ']' then
    if !state.opened || state.closed then .error .badAuthority
    else .ok { state with closed := true, colons := 0, percent := false }
  else if char = '@' then .ok { state with colons := 0, percent := false }
  else if char = '%' then .ok { state with percent := true }
  else if char.isAlphanum || authorityMarks.contains char then .ok state
  else .error .badChar

/-- Whether an authority may end here. -/
def AuthorityState.finish (state : AuthorityState) : Except UriError Unit :=
  if state.opened != state.closed || 1 < state.colons || state.endsWithAt || state.percent then
    .error .badAuthority
  else
    .ok ()

/-- The characters that end an authority. -/
def endsAuthority (char : Char) : Bool :=
  char == '/' || char == '?' || char == '#'

/-- Checks the authority at the start of a text. -/
def checkAuthority (authority : List Char) : Except UriError Unit := do
  let state ← authority.foldlM AuthorityState.step ⟨0, false, false, false, false⟩
  state.finish

/-- The part of a text before its fragment. -/
def beforeFragment (text : List Char) : List Char :=
  text.takeWhile fun char => char != '#'

/-- Reads path and query. -/
def ofPathAndQuery (text : List Char) : Except UriError Uri :=
  let visible := beforeFragment text
  let path := visible.takeWhile fun char => char != '?'
  let query := visible.dropWhile fun char => char != '?'
  if !path.all isPathChar || !(query.drop 1).all isQueryChar then .error .badChar
  else
    .ok {
      path := if path.isEmpty then "/" else String.ofList path
      query := if query.isEmpty then none else some (String.ofList (query.drop 1)) }

/-- The scheme of a text and what follows its two slashes. -/
def splitScheme (text : List Char) : Option (List Char × List Char) :=
  match text.dropWhile isSchemeChar with
  | ':' :: '/' :: '/' :: rest =>
      if 3 < text.length then some (text.takeWhile isSchemeChar, rest) else none
  | _ => none

/-- Reads a target that does not begin with a slash: one with scheme and
authority, or an authority alone. -/
def ofFullText (text : List Char) : Except UriError Uri :=
  match splitScheme text with
  | some (scheme, rest) =>
      if schemeLimit < scheme.length then .error .schemeTooLong
      else if rest.isEmpty then .error .empty
      else do
        let authority := rest.takeWhile fun char => !endsAuthority char
        checkAuthority authority
        if authority.isEmpty then .error .badFormat
        else ofPathAndQuery (rest.dropWhile fun char => !endsAuthority char)
  | none => do
      checkAuthority (text.takeWhile fun char => !endsAuthority char)
      if text.any endsAuthority then
        .error (if text.length = 1 then .badChar else .badFormat)
      else .ok { path := "", query := none }

/-- Reads a target. -/
def parse (text : String) : Except UriError Uri :=
  let chars := text.toList
  if lengthLimit < (Text.Utf8.bytes text).length then .error .tooLong
  else
    match chars with
    | [] => .error .empty
    | ['*'] => .ok { path := "*", query := none }
    | '/' :: _ => ofPathAndQuery chars
    | _ => ofFullText chars

end Uri

end CallPolicy
