import CallPolicy.Text.Ascii
import CallPolicy.Text.Ranges
import CallPolicy.Text.Table.GraphemeExtend
import CallPolicy.Text.Table.Unprintable

/-!
Contract: quoted text for messages.

Owns: the quoted form of a string and of a list of strings. Quoted text holds no
line break and no unseen character.

Does not own: the string literals of any document format.
-/

namespace CallPolicy.Text

/-- A character is shown as it is unless it has no visible form or attaches to
its neighbour. -/
def isShown (char : Char) : Bool :=
  !Table.graphemeExtend.contains char.toNat && !Table.unprintable.contains char.toNat

/-- One character inside quotes. -/
def quoteChar (char : Char) : List Char :=
  if char = '\x00' then ['\\', '0']
  else if char = '\t' then ['\\', 't']
  else if char = '\n' then ['\\', 'n']
  else if char = '\x0d' then ['\\', 'r']
  else if char = '"' then ['\\', '"']
  else if char = '\\' then ['\\', '\\']
  else if isShown char then [char]
  else ['\\', 'u', '\x7b'] ++ Nat.toDigits 16 char.toNat ++ ['\x7d']

/-- A text between quotes. -/
def quote (text : String) : String :=
  String.ofList ('"' :: (text.toList.flatMap quoteChar ++ ['"']))

/-- A list of texts, each between quotes. -/
def quoteList (texts : List String) : String :=
  "[" ++ ", ".intercalate (texts.map quote) ++ "]"

end CallPolicy.Text
