import CallPolicy.Json.Token
import CallPolicy.Text.Utf8

/-!
Contract: values from JSON text.

Owns: the nesting of tokens, read with a stack of open brackets, and the limit of
its height.

Does not own: sorting of members and the meaning of repeated names.
-/

namespace CallPolicy.Json

namespace Parser

/-- A bracket that is still open, with what it holds so far, newest first. In an
object the name waits for its value. -/
inductive Frame where
  | items (done : List Json)
  | members (done : List (String × Json)) (name : String)
deriving Repr

/-- What is expected next. The open brackets are kept innermost first. -/
inductive State where
  | value (stack : List Frame)
  | firstItem (stack : List Frame)
  | firstName (stack : List Frame)
  | nextName (done : List (String × Json)) (stack : List Frame)
  | colon (done : List (String × Json)) (name : String) (stack : List Frame)
  | complete (value : Json) (stack : List Frame)
deriving Repr

/-- The start of a value. -/
def begin? (stack : List Frame) : Token → Option State
  | .openArray => some (.firstItem stack)
  | .openObject => some (.firstName stack)
  | .string value => some (.complete (.string value) stack)
  | .scalar value => some (.complete value stack)
  | _ => none

/-- One token. -/
def step (state : State) (token : Token) : Option State :=
  match state with
  | .value stack => begin? stack token
  | .firstItem stack =>
      match token with
      | .closeArray => some (.complete (.array []) stack)
      | _ => begin? (.items [] :: stack) token
  | .firstName stack =>
      match token with
      | .closeObject => some (.complete (.object []) stack)
      | .string name => some (.colon [] name stack)
      | _ => none
  | .nextName done stack =>
      match token with
      | .string name => some (.colon done name stack)
      | _ => none
  | .colon done name stack =>
      match token with
      | .colon => some (.value (.members done name :: stack))
      | _ => none
  | .complete value (.items done :: stack) =>
      match token with
      | .comma => some (.value (.items (value :: done) :: stack))
      | .closeArray => some (.complete (.array (value :: done).reverse) stack)
      | _ => none
  | .complete value (.members done name :: stack) =>
      match token with
      | .comma => some (.nextName ((name, value) :: done) stack)
      | .closeObject => some (.complete (.object ((name, value) :: done).reverse) stack)
      | _ => none
  | .complete _ [] => none

/-- Reads all tokens. -/
def run (state : State) : List Token → Option State
  | [] => some state
  | token :: rest =>
      match step state token with
      | some next => run next rest
      | none => none

/-- The value that tokens spell at any depth, if they spell exactly one. -/
def value? (tokens : List Token) : Option Json :=
  match run (.value []) tokens with
  | some (.complete value []) => some value
  | _ => none

end Parser

/-- The greatest number of brackets that may be open at once. -/
def depthLimit : Nat := 127

/-- The value that tokens spell within the limit of depth. -/
def ofTokens? (tokens : List Token) : Option Json :=
  if Token.staysWithin depthLimit 0 tokens then Parser.value? tokens else none

/-- The value that a text spells. Members keep their order and repetitions. -/
def parse? (text : List Char) : Option Json :=
  (Token.ofText? text).bind ofTokens?

/-- The value that the bytes of a text spell. -/
def parseBytes? (bytes : List UInt8) : Option Json :=
  (Text.Utf8.decode? bytes).bind parse?

end CallPolicy.Json
