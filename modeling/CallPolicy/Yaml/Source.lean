import CallPolicy.Text.Ranges

/-!
Contract: YAML text as a list of placed characters.

Owns:
- which characters a document may hold;
- one form for the line breaks that mean the same;
- the place of every character, and the classes that tokens are told apart by.

Does not own: tokens.
-/

namespace CallPolicy.Yaml

/-- A character with its place: line and column count characters from zero, the
index counts the bytes of the text in UTF-8. -/
structure Spot where
  char : Char
  line : Nat
  column : Nat
  index : Nat
deriving DecidableEq, Repr

/-- What is left of a text. -/
abbrev Source := List Spot

/-- The characters that a document may hold. -/
def allowed : Text.Ranges :=
  [(0x9, 0xA), (0xD, 0xD), (0x20, 0x7E), (0x85, 0x85), (0xA0, 0xD7FF), (0xE000, 0xFFFD),
    (0x10000, 0x10FFFF)]

/-- The mark that may stand before the first token of a line. It takes up a column
there. -/
def byteOrderMark : Char := Char.ofNat 0xFEFF

/-- The break that carriage returns and next-line characters are read as. -/
def lineFeed : Char := '\n'

/-- The breaks of lines and of paragraphs, which are kept as they are. -/
def separators : List Char := [Char.ofNat 0x2028, Char.ofNat 0x2029]

/-- Whether a character ends a line. -/
def isBreak (char : Char) : Bool :=
  char == lineFeed || separators.contains char

/-- Whether a character is a space or a tab. -/
def isBlank (char : Char) : Bool :=
  char == ' ' || char == '\t'

/-- Whether a character may be part of an anchor or of the name of a directive. -/
def isWordChar (char : Char) : Bool :=
  char.isAlphanum || char == '_' || char == '-'

/-- How far a text is placed: the place of the next character, whether the last one
was a carriage return, and the placed characters, newest first. -/
structure Placement where
  line : Nat
  column : Nat
  index : Nat
  afterReturn : Bool
  placed : List Spot

/-- The character that is read for a written one. Every break that is neither a line
nor a paragraph separator is read as a line feed. -/
def readAs (char : Char) : Char :=
  if char == '\x0d' || char.toNat == 0x85 then lineFeed else char

/-- Places one more character. A line feed right after a carriage return belongs to
the same break. -/
def Placement.step (placement : Placement) (char : Char) : Placement :=
  let index := placement.index + char.utf8Size
  if placement.afterReturn && char == '\n' then
    { placement with index, afterReturn := false }
  else
    let spot := ⟨readAs char, placement.line, placement.column, placement.index⟩
    let placed := spot :: placement.placed
    if isBreak (readAs char) then
      ⟨placement.line + 1, 0, index, char == '\x0d', placed⟩
    else
      ⟨placement.line, placement.column + 1, index, false, placed⟩

/-- Places all characters of a text. -/
def place (text : List Char) : Source :=
  (text.foldl Placement.step ⟨0, 0, 0, false, []⟩).placed.reverse

/-- The placed characters of a document, unless it holds one that none may hold. -/
def Source.ofText? (text : List Char) : Option Source :=
  if text.all fun char => allowed.contains char.toNat then some (place text) else none

namespace Source

/-- The next character, if any is left. -/
def head? (source : Source) : Option Char :=
  (List.head? source).map Spot.char

/-- Whether a line ends here. -/
def atLineEnd : Source → Bool
  | [] => true
  | spot :: _ => isBreak spot.char

/-- Whether a blank, a line end or the end of the text follows. -/
def atGap : Source → Bool
  | [] => true
  | spot :: _ => isBlank spot.char || isBreak spot.char

/-- Whether three marks stand alone at the start of a line. -/
def atIndicator (mark : Char) : Source → Bool
  | first :: second :: third :: rest =>
      first.column == 0 && first.char == mark && second.char == mark && third.char == mark &&
        atGap rest
  | _ => false

/-- Whether the start or the end of a document is marked here. -/
def atDocumentMark (source : Source) : Bool :=
  atIndicator '-' source || atIndicator '.' source

/-- The longest run of accepted characters, and what follows it. -/
def takeWhile (accept : Char → Bool) (source : Source) : List Char × Source :=
  let taken := List.takeWhile (fun spot => accept spot.char) source
  (taken.map Spot.char, source.drop taken.length)

/-- What follows the accepted characters. -/
def skipWhile (accept : Char → Bool) (source : Source) : Source :=
  List.dropWhile (fun spot => accept spot.char) source

/-- What follows the comment that stands here, if one does. -/
def skipComment (source : Source) : Source :=
  if source.head? = some '#' then source.skipWhile fun char => !isBreak char else source

end Source

end CallPolicy.Yaml
