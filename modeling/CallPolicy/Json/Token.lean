import CallPolicy.Json.NumberText
import CallPolicy.Text.Ascii

/-!
Contract: the tokens of JSON text.

Owns:
- the tokens, among them those that are well formed but stand for no value;
- an automaton that reads text one character at a time and gives the tokens;
- the number of brackets that are open between tokens.

Does not own: how tokens nest into values.
-/

namespace CallPolicy.Json

/-- A token: a bracket, a separator or a value without parts. A string with half of a
surrogate pair stands for no text, and a number beyond the largest double for no
number. -/
inductive Token where
  | openArray
  | closeArray
  | openObject
  | closeObject
  | comma
  | colon
  | string (value : String)
  | scalar (value : Json)
  | brokenString
  | hugeNumber
deriving Inhabited, Repr

namespace Token

/-- The characters of an unfinished string, newest first, unless it has turned out to
be broken. -/
abbrev Chars := Option (List Char)

/-- Where the automaton stands. Characters and digits that belong to an unfinished
token are kept newest first. -/
inductive State where
  | between
  | word (letters : List Char)
  | number (chars : List Char)
  | text (chars : Chars)
  | escape (chars : Chars)
  | code (chars : Chars) (high : Option Nat) (count value : Nat)
  | low (chars : Chars) (high : Nat)
  | lowMark (chars : Chars) (high : Nat)
deriving Repr

/-- The characters of which number texts are made. -/
def isNumberChar (char : Char) : Bool :=
  char.isDigit || char == '-' || char == '+' || char == '.' || char == 'e' || char == 'E'

/-- The blanks between tokens. -/
def isSpace (char : Char) : Bool :=
  char == ' ' || char == '\t' || char == '\n' || char == '\x0d'

/-- The value that a word stands for. -/
def ofWord? (letters : List Char) : Option Token :=
  if letters = ['t', 'r', 'u', 'e'] then some (.scalar (.bool true))
  else if letters = ['f', 'a', 'l', 's', 'e'] then some (.scalar (.bool false))
  else if letters = ['n', 'u', 'l', 'l'] then some (.scalar .null)
  else none

/-- The token that a number text is. -/
def ofNumber? (chars : List Char) : Option Token :=
  (NumberText.ofChars? chars).map fun text =>
    match text.value? with
    | some value => .scalar (.number value)
    | none => .hugeNumber

/-- The token that a finished string is. -/
def ofString : Chars → Token
  | some chars => .string (String.ofList chars.reverse)
  | none => .brokenString

/-- The first character of a token, or a blank. Gives the tokens that are complete
with it, newest first. -/
def begin? (char : Char) : Option (List Token × State) :=
  if isSpace char then some ([], .between)
  else if char = '[' then some ([.openArray], .between)
  else if char = ']' then some ([.closeArray], .between)
  else if char = '\x7b' then some ([.openObject], .between)
  else if char = '\x7d' then some ([.closeObject], .between)
  else if char = ',' then some ([.comma], .between)
  else if char = ':' then some ([.colon], .between)
  else if char = '"' then some ([], .text (some []))
  else if char.isDigit ∨ char = '-' then some ([], .number [char])
  else if char.isLower then some ([], .word [char])
  else none

/-- One more character of a string. -/
def addChar (char : Char) (chars : Chars) : State :=
  .text (chars.map fun read => char :: read)

/-- The character that a short escape stands for. -/
def ofEscape? (char : Char) : Option Char :=
  if char = '"' then some '"'
  else if char = '\\' then some '\\'
  else if char = '/' then some '/'
  else if char = 'b' then some '\x08'
  else if char = 'f' then some '\x0c'
  else if char = 'n' then some '\n'
  else if char = 'r' then some '\x0d'
  else if char = 't' then some '\t'
  else none

/-- What follows a complete four-digit escape. A low surrogate is read with the high
one before it; alone, either of them breaks the string. -/
def ofCode (chars : Chars) (high : Option Nat) (value : Nat) : State :=
  match high with
  | none =>
      if 0xD800 ≤ value ∧ value ≤ 0xDBFF then .low chars value
      else if 0xDC00 ≤ value ∧ value ≤ 0xDFFF then .text none
      else addChar (Char.ofNat value) chars
  | some high =>
      if 0xDC00 ≤ value ∧ value ≤ 0xDFFF then
        addChar (Char.ofNat (0x10000 + (high - 0xD800) * 0x400 + (value - 0xDC00))) chars
      else .text none

/-- One character of a string outside of escapes. -/
def inText? (chars : Chars) (char : Char) : Option (List Token × State) :=
  if char = '"' then some ([ofString chars], .between)
  else if char = '\\' then some ([], .escape chars)
  else if char.toNat < 0x20 then none
  else some ([], addChar char chars)

/-- The character after a backslash. -/
def inEscape? (chars : Chars) (char : Char) : Option (List Token × State) :=
  if char = 'u' then some ([], .code chars none 0 0)
  else (ofEscape? char).map fun escaped => ([], addChar escaped chars)

/-- One character of the text: the tokens that it completes, newest first, and
where the automaton stands after it. -/
def step (state : State) (char : Char) : Option (List Token × State) :=
  match state with
  | .between => begin? char
  | .word letters =>
      if char.isLower then some ([], .word (char :: letters))
      else do
        let token ← ofWord? letters.reverse
        let (tokens, next) ← begin? char
        some (tokens ++ [token], next)
  | .number chars =>
      if isNumberChar char then some ([], .number (char :: chars))
      else do
        let token ← ofNumber? chars.reverse
        let (tokens, next) ← begin? char
        some (tokens ++ [token], next)
  | .text chars => inText? chars char
  | .escape chars => inEscape? chars char
  | .code chars high count value => do
      let digit ← Text.Ascii.hexValue? char.toNat
      if count = 3 then
        some ([], ofCode chars high (value * 16 + digit))
      else
        some ([], .code chars high (count + 1) (value * 16 + digit))
  | .low chars high =>
      if char = '\\' then some ([], .lowMark chars high) else inText? none char
  | .lowMark chars high =>
      if char = 'u' then some ([], .code chars (some high) 0 0) else inEscape? none char

/-- The tokens that the end of the text completes. -/
def finish? : State → Option (List Token)
  | .between => some []
  | .word letters => (ofWord? letters.reverse).map fun token => [token]
  | .number chars => (ofNumber? chars.reverse).map fun token => [token]
  | _ => none

/-- Runs the automaton. The tokens found so far are kept newest first. -/
def run (state : State) (found : List Token) : List Char → Option (List Token)
  | [] => (finish? state).map fun last => (last ++ found).reverse
  | char :: rest =>
      match step state char with
      | some (tokens, next) => run next (tokens ++ found) rest
      | none => none

/-- The tokens of a text. -/
def ofText? (text : List Char) : Option (List Token) :=
  run .between [] text

/-- How many brackets are open after one more token. -/
def depthAfter (depth : Nat) : Token → Nat
  | .openArray | .openObject => depth + 1
  | .closeArray | .closeObject => depth - 1
  | _ => depth

/-- Whether no more brackets than a limit are ever open, with some open already. -/
def staysWithin (limit depth : Nat) : List Token → Bool
  | [] => true
  | token :: rest =>
      let next := depthAfter depth token
      next ≤ limit && staysWithin limit next rest

end Token

end CallPolicy.Json
