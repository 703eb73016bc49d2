import CallPolicy.Toml.Quoted
import CallPolicy.Toml.Word

/-!
Contract: TOML values and documents from text.

Owns: keys, arrays, tables between braces, and the lines of a document.

Does not own: how tables grow, and what the values are used for.
-/

namespace CallPolicy.Toml

/-- What follows the blanks at the start. -/
def skipBlanks (source : List Char) : List Char :=
  source.dropWhile isBlank

/-- What follows the comment that stands here, if one does. -/
def skipComment (source : List Char) : List Char :=
  match source with
  | '#' :: rest => rest.dropWhile isTextChar
  | _ => source

/-- What follows the end of a line, which is a break or the end of the text. -/
def lineEnd? (source : List Char) : Option (List Char) :=
  if source.isEmpty then some [] else lineBreak? source

/-- What follows the rest of a line that holds nothing but a comment. -/
def finishLine? (source : List Char) : Option (List Char) :=
  lineEnd? (skipComment (skipBlanks source))

/-- What follows the blanks, breaks and comments inside of an array. -/
def skipFiller (inComment : Bool) : List Char → List Char
  | [] => []
  | '\n' :: rest => skipFiller false rest
  | '\x0d' :: '\n' :: rest => skipFiller false rest
  | char :: rest =>
      if inComment then
        if isTextChar char then skipFiller true rest else char :: rest
      else if isBlank char then skipFiller false rest
      else if char = '#' then skipFiller true rest
      else char :: rest

namespace Key

/-- The characters of a name without quotes. -/
def isBare (char : Char) : Bool :=
  char.isAlphanum || char == '_' || char == '-'

/-- One name of a key. -/
def name? (source : List Char) : Option (String × List Char) :=
  match source with
  | '"' :: _ | '\x27' :: _ =>
      (Quoted.line? source).map fun found => (String.ofList found.1, found.2)
  | _ =>
      let name := source.takeWhile isBare
      if name.isEmpty then none else some (String.ofList name, source.drop name.length)

/-- The greatest number of names in a key. -/
def nameLimit : Nat := 79

/-- Reads the names of a key, put after those that are done, newest first. -/
def names? : Nat → List String → List Char → Option (List String × List Char)
  | 0, _, _ => none
  | left + 1, done, source => do
      let (name, afterName) ← name? (skipBlanks source)
      match skipBlanks afterName with
      | '.' :: rest => names? left (name :: done) rest
      | rest => some (name :: done, rest)

/-- A key: the names before the last one, and the last one. -/
def scan? (source : List Char) : Option ((List String × String) × List Char) := do
  match ← names? nameLimit [] source with
  | (last :: before, rest) => some ((before.reverse, last), rest)
  | ([], _) => none

end Key

/-- Reads the items of an array up to its closing bracket, put after those that are
done, newest first. Each item takes at least one character. -/
def items? (read : List Char → Option (Toml × List Char)) :
    Nat → List Toml → List Char → Option (List Toml × List Char)
  | 0, _, _ => none
  | fuel + 1, done, source =>
      match skipFiller false source with
      | ']' :: rest => some (done.reverse, rest)
      | start =>
          match read start with
          | none => none
          | some (item, afterItem) =>
              match skipFiller false afterItem with
              | ',' :: rest => items? read fuel (item :: done) rest
              | ']' :: rest => some ((item :: done).reverse, rest)
              | _ => none

/-- Reads the members of a table up to its closing brace. Each member takes at least
one character. -/
def members? (read : List Char → Option (Toml × List Char)) :
    Nat → Members → List Char → Option (Members × List Char)
  | 0, _, _ => none
  | fuel + 1, done, source => do
      let ((path, name), afterKey) ← Key.scan? source
      match afterKey with
      | '=' :: afterSign => do
          let (value, afterValue) ← read (skipBlanks afterSign)
          let members ← addValue path name value .inline done
          match skipBlanks afterValue with
          | ',' :: rest => members? read fuel members rest
          | '\x7d' :: rest => some (members, rest)
          | _ => none
      | _ => none

/-- The table between braces, from the character after the opening one. -/
def inlineTable? (read : List Char → Option (Toml × List Char)) (source : List Char) :
    Option (Toml × List Char) :=
  match skipBlanks source with
  | '\x7d' :: rest => some (.table .inline [], rest)
  | start =>
      (members? read start.length [] start).map fun found => (.table .inline found.1, found.2)

/-- The greatest number of brackets and braces that may be open at once. -/
def depthLimit : Nat := 79

/-- A value at the start of a text, with a limit on the depth of its brackets. -/
def value? : Nat → List Char → Option (Toml × List Char)
  | depth, source =>
      match source with
      | '"' :: _ | '\x27' :: _ =>
          (Quoted.string? source).map fun found => (.string (String.ofList found.1), found.2)
      | '[' :: rest =>
          match depth with
          | 0 => none
          | depth + 1 =>
              (items? (value? depth) source.length [] rest).map fun found =>
                (.array found.1, found.2)
      | '\x7b' :: rest =>
          match depth with
          | 0 => none
          | depth + 1 => inlineTable? (value? depth) rest
      | _ => Word.scan source

/-- A document as far as it was read: the members of its root, and the path of the
table that is open, empty for the root itself. -/
structure Progress where
  members : Members
  path : List String
deriving Inhabited, Repr

/-- Reads a header, from the character after its first bracket. -/
def header? (progress : Progress) (source : List Char) : Option (Progress × List Char) := do
  match source with
  | '[' :: inner =>
      let ((path, name), afterKey) ← Key.scan? inner
      match afterKey with
      | ']' :: ']' :: rest =>
          let members ← openElement path name progress.members
          some (⟨members, path ++ [name]⟩, ← finishLine? rest)
      | _ => none
  | _ =>
      let ((path, name), afterKey) ← Key.scan? source
      match afterKey with
      | ']' :: rest =>
          let members ← openTable path name progress.members
          some (⟨members, path ++ [name]⟩, ← finishLine? rest)
      | _ => none

/-- Reads a key with its value into the table that is open. -/
def keyValue? (progress : Progress) (source : List Char) : Option (Progress × List Char) := do
  let ((path, name), afterKey) ← Key.scan? source
  match afterKey with
  | '=' :: afterSign =>
      let (value, afterValue) ← value? depthLimit (skipBlanks afterSign)
      let members ←
        changeAt false (addValue path name value) progress.path .header progress.members
      some ({ progress with members }, ← finishLine? afterValue)
  | _ => none

/-- Reads one line, or the several lines of one value. -/
def line? (progress : Progress) (source : List Char) : Option (Progress × List Char) :=
  match source with
  | '[' :: rest => header? progress rest
  | '#' :: _ => (finishLine? source).map fun rest => (progress, rest)
  | _ =>
      match lineBreak? source with
      | some rest => some (progress, rest)
      | none => keyValue? progress source

/-- Reads all lines. Each takes at least one character, so as many steps as there
are characters are enough. -/
def lines? : Nat → Progress → List Char → Option Members
  | steps, progress, source =>
      match skipBlanks source with
      | [] => some progress.members
      | start =>
          match steps with
          | 0 => none
          | steps + 1 =>
              match line? progress start with
              | some (next, rest) => lines? steps next rest
              | none => none

/-- The mark that may stand before a text. -/
def byteOrderMark : Char := Char.ofNat 0xFEFF

/-- The members of the document that a text spells. -/
def parse? (text : List Char) : Option Members :=
  let content :=
    match text with
    | first :: rest => if first = byteOrderMark then rest else text
    | [] => []
  lines? content.length ⟨[], []⟩ content

end CallPolicy.Toml
