import CallPolicy.Json.NumberText
import CallPolicy.Text.Ascii

/-!
Contract: JSON text of values.

Owns: the compact form on one line and the form with one item on each line.

Does not own: the order of members, which is that of the value.
-/

namespace CallPolicy.Json

/-- One character between the quotes of a string. -/
def escapeChar (char : Char) : List Char :=
  if char = '"' then ['\\', '"']
  else if char = '\\' then ['\\', '\\']
  else if char = '\x08' then ['\\', 'b']
  else if char = '\x0c' then ['\\', 'f']
  else if char = '\n' then ['\\', 'n']
  else if char = '\x0d' then ['\\', 'r']
  else if char = '\t' then ['\\', 't']
  else if char.toNat < 0x20 then
    ['\\', 'u', '0', '0', Text.Ascii.hexDigit (char.toNat / 16),
      Text.Ascii.hexDigit (char.toNat % 16)]
  else [char]

/-- A string in quotes. -/
def renderString (value : String) : List Char :=
  '"' :: (value.toList.flatMap escapeChar ++ ['"'])

mutual

/-- The compact text of a value. -/
def render : Json → List Char
  | .null => ['n', 'u', 'l', 'l']
  | .bool true => ['t', 'r', 'u', 'e']
  | .bool false => ['f', 'a', 'l', 's', 'e']
  | .number value => value.render.toList
  | .string value => renderString value
  | .array [] => ['[', ']']
  | .array (item :: rest) => '[' :: (render item ++ renderItems rest)
  | .object [] => ['\x7b', '\x7d']
  | .object ((name, value) :: rest) =>
      '\x7b' :: (renderString name ++ ':' :: (render value ++ renderMembers rest))
termination_by structural value => value

/-- The items after the first, and the closing bracket. -/
def renderItems : List Json → List Char
  | [] => [']']
  | item :: rest => ',' :: (render item ++ renderItems rest)
termination_by structural items => items

/-- The members after the first, and the closing bracket. -/
def renderMembers : List (String × Json) → List Char
  | [] => ['\x7d']
  | (name, value) :: rest =>
      ',' :: (renderString name ++ ':' :: (render value ++ renderMembers rest))
termination_by structural members => members

end

/-- A line break and two spaces for each open bracket. -/
def newLine (depth : Nat) : List Char :=
  '\n' :: List.replicate (2 * depth) ' '

mutual

/-- The text of a value with each item and member on a line of its own. -/
def renderLines (depth : Nat) : Json → List Char
  | .null => ['n', 'u', 'l', 'l']
  | .bool true => ['t', 'r', 'u', 'e']
  | .bool false => ['f', 'a', 'l', 's', 'e']
  | .number value => value.render.toList
  | .string value => renderString value
  | .array [] => ['[', ']']
  | .array (item :: rest) =>
      '[' :: (newLine (depth + 1) ++ renderLines (depth + 1) item ++ itemLines depth rest)
  | .object [] => ['\x7b', '\x7d']
  | .object ((name, value) :: rest) =>
      '\x7b' :: (newLine (depth + 1) ++ renderString name ++ [':', ' '] ++
        renderLines (depth + 1) value ++ memberLines depth rest)
termination_by structural value => value

/-- The lines after the first item, and the closing bracket. -/
def itemLines (depth : Nat) : List Json → List Char
  | [] => newLine depth ++ [']']
  | item :: rest =>
      ',' :: (newLine (depth + 1) ++ renderLines (depth + 1) item ++ itemLines depth rest)
termination_by structural items => items

/-- The lines after the first member, and the closing bracket. -/
def memberLines (depth : Nat) : List (String × Json) → List Char
  | [] => newLine depth ++ ['\x7d']
  | (name, value) :: rest =>
      ',' :: (newLine (depth + 1) ++ renderString name ++ [':', ' '] ++
        renderLines (depth + 1) value ++ memberLines depth rest)
termination_by structural members => members

end

end CallPolicy.Json
