/-!
Contract: the character classes and case maps that only know ASCII.

Owns:
- case folding that leaves every character outside ASCII alone;
- hexadecimal digits and their values, for characters and for bytes;
- the characters a header name or a method may hold.

Does not own: the case maps of the whole character set.
-/

namespace CallPolicy.Text.Ascii

/-- Letters of ASCII in lower case; every other character stays. -/
def lower (text : String) : String :=
  String.ofList (text.toList.map Char.toLower)

/-- Letters of ASCII in upper case; every other character stays. -/
def upper (text : String) : String :=
  String.ofList (text.toList.map Char.toUpper)

/-- The value of a hexadecimal digit given by its code, in either case. -/
def hexValue? (code : Nat) : Option Nat :=
  if 0x30 ≤ code ∧ code ≤ 0x39 then some (code - 0x30)
  else if 0x41 ≤ code ∧ code ≤ 0x46 then some (code - 0x41 + 10)
  else if 0x61 ≤ code ∧ code ≤ 0x66 then some (code - 0x61 + 10)
  else none

/-- The digit with a value below sixteen, in lower case. -/
def hexDigit (value : Nat) : Char :=
  if value < 10 then Char.ofNat (0x30 + value) else Char.ofNat (0x61 + (value - 10))

/-- The punctuation that a token may hold beside letters and digits. -/
def tokenMarks : List Char :=
  ['!', '#', '$', '%', '&', '\x27', '*', '+', '-', '.', '^', '_', '\x60', '|', '~']

/-- One character of a method or of a header name. -/
def isTokenChar (char : Char) : Bool :=
  char.isAlphanum || tokenMarks.contains char

/-- A method or a header name is a nonempty run of token characters. -/
def isToken (text : String) : Bool :=
  !text.isEmpty && text.toList.all isTokenChar

end CallPolicy.Text.Ascii
