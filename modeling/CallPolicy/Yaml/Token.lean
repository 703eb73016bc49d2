import CallPolicy.Text.Percent
import CallPolicy.Yaml.Source

/-!
Contract: the tokens of YAML text, and the short ones among them.

Owns: the tokens, anchors and aliases, tags, and directives.

Does not own: scalars, and the tokens that indentation stands for.
-/

namespace CallPolicy.Yaml

/-- A tag as it is written: the handle, which is empty for a tag in full, and the
bytes after it. -/
structure TagText where
  handle : String
  suffix : List UInt8
deriving DecidableEq, Repr

/-- A token. Blocks that are given by indentation have marks for their start and
their end. -/
inductive Token where
  | version (major minor : Nat)
  | tagPrefix (handle : String) (expansion : List UInt8)
  | documentStart
  | documentEnd
  | blockSequenceStart
  | blockMappingStart
  | blockEnd
  | flowSequenceStart
  | flowSequenceEnd
  | flowMappingStart
  | flowMappingEnd
  | blockEntry
  | flowEntry
  | key
  | value
  | alias (name : String)
  | anchor (name : String)
  | tag (text : TagText)
  | scalar (plain : Bool) (text : String)
deriving DecidableEq, Repr

namespace Token

/-- The characters that may follow a name directly. -/
def nameEnds : List Char :=
  ['?', ':', ',', ']', '\x7d', '%', '@', '\x60']

/-- The name of an anchor or an alias, after its sign. -/
def name? (source : Source) : Option (String × Source) :=
  let (chars, rest) := source.takeWhile isWordChar
  if !chars.isEmpty && (rest.atGap || rest.head?.any fun char => nameEnds.contains char) then
    some (String.ofList chars, rest)
  else
    none

/-- The punctuation of tags. -/
def tagMarks : List Char :=
  [';', '/', '?', ':', '@', '&', '=', '+', '$', '.', '!', '~', '*', '\x27', '(', ')']

/-- The punctuation that only tags in angle brackets and expansions may hold
besides. -/
def verbatimMarks : List Char :=
  [',', '[', ']']

/-- Whether a character may be part of a tag as it is. -/
def isTagChar (verbatim : Bool) (char : Char) : Bool :=
  isWordChar char || tagMarks.contains char || (verbatim && verbatimMarks.contains char)

/-- How many bytes follow a first byte in a character of its shape. -/
def following? (byte : UInt8) : Option Nat :=
  if byte < 0x80 then some 0
  else if 0xC0 ≤ byte && byte < 0xE0 then some 1
  else if 0xE0 ≤ byte && byte < 0xF0 then some 2
  else if 0xF0 ≤ byte && byte < 0xF8 then some 3
  else none

/-- How many escaped bytes are still due after one more of them. -/
def due? (due : Nat) (byte : UInt8) : Option Nat :=
  if due = 0 then following? byte
  else if 0x80 ≤ byte && byte < 0xC0 then some (due - 1)
  else none

/-- The byte that an escape stands for, given by its two digits. -/
def escapedByte? (high low : Spot) : Option UInt8 :=
  Text.Percent.pair? (UInt8.ofNat high.char.toNat) (UInt8.ofNat low.char.toNat)

/-- The bytes of a tag, of which those read so far are kept newest first. The
escaped bytes of one character stand together. -/
def tagBytes? (verbatim : Bool) (due : Nat) (bytes : List UInt8) :
    Source → Option (List UInt8 × Source)
  | [] => if due = 0 then some (bytes.reverse, []) else none
  | spot :: rest =>
      if spot.char = '%' then
        match rest with
        | high :: low :: more =>
            if 0x80 ≤ high.char.toNat || 0x80 ≤ low.char.toNat then none
            else
              match escapedByte? high low with
              | none => none
              | some byte =>
                  match due? due byte with
                  | none => none
                  | some left => tagBytes? verbatim left (byte :: bytes) more
        | _ => none
      else if due ≠ 0 then none
      else if isTagChar verbatim spot.char then
        tagBytes? verbatim 0 (UInt8.ofNat spot.char.toNat :: bytes) rest
      else
        some (bytes.reverse, spot :: rest)

/-- The handle at the start of a tag: an exclamation mark, and a name with a second
mark after it if there is one. -/
def handle? : Source → Option (List Char × Source)
  | [] => none
  | spot :: rest =>
      if spot.char = '!' then
        let (name, more) := Source.takeWhile isWordChar rest
        if Source.head? more = some '!' then some ('!' :: (name ++ ['!']), more.drop 1)
        else some ('!' :: name, more)
      else none

/-- Whether a handle has both its marks. -/
def isClosed (handle : List Char) : Bool :=
  1 < handle.length && handle.getLast? == some '!'

/-- The bytes of characters of ASCII. -/
def asciiBytes (chars : List Char) : List UInt8 :=
  chars.map fun char => UInt8.ofNat char.toNat

/-- The bytes of a tag that count: a zero byte ends it. -/
def upToZero (bytes : List UInt8) : List UInt8 :=
  bytes.takeWhile fun byte => byte != 0

/-- A tag without angle brackets. What looked like an open handle belongs to the
text of the tag; a mark with nothing that counts after it is a tag of its own. -/
def shortTag? (source : Source) : Option (TagText × Source) := do
  let (handle, afterHandle) ← handle? source
  if isClosed handle then
    let (suffix, rest) ← tagBytes? false 0 [] afterHandle
    if suffix.isEmpty then none else some (⟨String.ofList handle, upToZero suffix⟩, rest)
  else
    let (more, rest) ← tagBytes? false 0 [] afterHandle
    let suffix := upToZero (asciiBytes (handle.drop 1) ++ more)
    if suffix.isEmpty then some (⟨"", asciiBytes ['!']⟩, rest) else some (⟨"!", suffix⟩, rest)

/-- A tag in angle brackets, from the character after the opening one. -/
def verbatimTag? (source : Source) : Option (TagText × Source) := do
  let (suffix, rest) ← tagBytes? true 0 [] source
  if suffix.isEmpty || rest.head? != some '>' then none
  else some (⟨"", upToZero suffix⟩, rest.drop 1)

/-- A tag, from its exclamation mark. -/
def tag? (inFlow : Bool) (source : Source) : Option (Token × Source) := do
  let (text, rest) ←
    if Source.head? (source.drop 1) = some '<' then verbatimTag? (source.drop 2)
    else shortTag? source
  if rest.atGap || (inFlow && rest.head? == some ',') then some (.tag text, rest) else none

/-- The greatest number of digits in a part of a version. -/
def versionDigits : Nat := 9

/-- A number in a version. -/
def versionNumber? (source : Source) : Option (Nat × Source) :=
  let (digits, rest) := source.takeWhile Char.isDigit
  if digits.isEmpty || versionDigits < digits.length then none
  else some (digits.foldl (fun value digit => value * 10 + (digit.toNat - '0'.toNat)) 0, rest)

/-- The version that a directive names. -/
def version? (source : Source) : Option (Token × Source) := do
  let (major, afterMajor) ← versionNumber? (source.skipWhile isBlank)
  if afterMajor.head? != some '.' then none
  else
    let (minor, rest) ← versionNumber? (afterMajor.drop 1)
    some (.version major minor, rest)

/-- The handle and the expansion that a directive gives. -/
def tagPrefix? (source : Source) : Option (Token × Source) := do
  let (handle, afterHandle) ← handle? (source.skipWhile isBlank)
  if !(isClosed handle || handle == ['!']) || !afterHandle.head?.any isBlank then none
  else
    let (expansion, rest) ← tagBytes? true 0 [] (afterHandle.skipWhile isBlank)
    if expansion.isEmpty || !rest.atGap then none
    else some (.tagPrefix (String.ofList handle) (upToZero expansion), rest)

/-- A directive, from the character after its percent sign. Its line holds nothing
else but a comment. -/
def directive? (source : Source) : Option (Token × Source) := do
  let (name, afterName) := source.takeWhile isWordChar
  let (token, rest) ←
    if !afterName.atGap then none
    else if name = ['Y', 'A', 'M', 'L'] then version? afterName
    else if name = ['T', 'A', 'G'] then tagPrefix? afterName
    else none
  let ended := (rest.skipWhile isBlank).skipComment
  if ended.atLineEnd then some (token, ended.drop 1) else none

end Token

end CallPolicy.Yaml
