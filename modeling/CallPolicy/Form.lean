import CallPolicy.Keyed
import CallPolicy.Text.Percent
import CallPolicy.Text.Split
import CallPolicy.Text.Utf8

/-!
Contract: form data, as it stands in queries and in bodies.

Owns:
- the fields of form data as they were sent, and the texts that they are read as;
- reading of form data into the values of each name.

Does not own: where form data is expected.
-/

namespace CallPolicy

/-- The values of each name that was sent, in the order in which they were sent. -/
abbrev Form := Keyed (List String)

namespace Form

/-- The form of fields that were sent one after another. -/
def ofFields (fields : List (String × String)) : Form :=
  fields.foldl (fun form field => form.addValue field.1 field.2) Keyed.empty

/-- The plus sign, which stands for a space. -/
def plus : UInt8 := 0x2B

/-- The bytes that a name or a value stands for: a plus is a space, and escapes are
decoded. -/
def octets (raw : List UInt8) : List UInt8 :=
  Text.Percent.decode (raw.map fun byte => if byte = plus then 0x20 else byte)

/-- The text that a name or a value is read as. Bytes that are no text are replaced. -/
def decodeText (raw : List UInt8) : String :=
  String.ofList (Text.Utf8.decodeLossy (octets raw))

/-- The name and the value of one piece: what stands before and after the first equals
sign. Without one the piece is a name with an empty value. -/
def rawField (piece : List UInt8) : List UInt8 × List UInt8 :=
  (Text.cutAt 0x3D piece).getD (piece, [])

/-- The fields as they were sent. Empty pieces between the separators are no fields. -/
def rawFields (input : List UInt8) : List (List UInt8 × List UInt8) :=
  ((Text.splitOn 0x26 input).filter fun piece => !piece.isEmpty).map rawField

/-- Whether data is text in which every percent sign begins an escape. -/
def wellFormed (input : List UInt8) : Bool :=
  (Text.Utf8.decode? input).isSome && Text.Percent.wellFormed input

/-- The fields with the texts that they are read as. -/
def readFields (input : List UInt8) : List (String × String) :=
  (rawFields input).map fun field => (decodeText field.1, decodeText field.2)

/-- Reads form data. It is looked through as it was sent before anything is decoded. -/
def parse? (input : List UInt8) : Option Form :=
  if wellFormed input then some (ofFields (readFields input)) else none

end Form

end CallPolicy
