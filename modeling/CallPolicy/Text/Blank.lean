import CallPolicy.Text.Ranges

/-!
Contract: white space at the ends of a text.

Owns: the code points with the property `White_Space` and trimming by them.

Does not own: the narrower blanks of any document format.
-/

namespace CallPolicy.Text

/-- Code points with the property `White_Space`. -/
def blanks : Ranges :=
  [
    (0x9, 0xd), (0x20, 0x20), (0x85, 0x85), (0xa0, 0xa0), (0x1680, 0x1680),
    (0x2000, 0x200a), (0x2028, 0x2029), (0x202f, 0x202f), (0x205f, 0x205f),
    (0x3000, 0x3000)
  ]

/-- White space, in the sense of the whole character set. -/
def isBlank (char : Char) : Bool :=
  blanks.contains char.toNat

/-- A text without the white space at both ends. -/
def trimChars (text : List Char) : List Char :=
  ((text.dropWhile isBlank).reverse.dropWhile isBlank).reverse

/-- A string without the white space at both ends. -/
def trim (text : String) : String :=
  String.ofList (trimChars text.toList)

end CallPolicy.Text
