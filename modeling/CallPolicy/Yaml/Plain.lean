import CallPolicy.Yaml.Gap

/-!
Contract: scalars without quotes.

Owns: which characters may begin one, what ends it, and folding of its lines.

Does not own: the values that plain scalars stand for.
-/

namespace CallPolicy.Yaml.Plain

/-- The characters that have a meaning of their own at the start of a token. -/
def indicators : List Char :=
  ['-', '?', ':', ',', '[', ']', '\x7b', '\x7d', '#', '&', '*', '!', '|', '>', '\x27', '"',
    '%', '@', '\x60']

/-- The characters that separate the parts of flow collections. -/
def flowMarks : List Char :=
  [',', '[', ']', '\x7b', '\x7d']

/-- Whether a plain scalar may begin here. A dash has to be followed by something
other than a blank, and outside of flow collections so may a question mark and a
colon. -/
def startsHere (inFlow : Bool) : Source → Bool
  | [] => false
  | spot :: rest =>
      if isBlank spot.char || isBreak spot.char then false
      else if spot.char = '-' then !(rest.head?.any fun next => isBlank next.char)
      else if spot.char = '?' || spot.char = ':' then !inFlow && !Source.atGap rest
      else !indicators.contains spot.char

/-- Whether a character that is no blank begins a new token. -/
def endsAt (inFlow : Bool) (char : Char) (rest : Source) : Bool :=
  (char == ':' && Source.atGap rest) || (inFlow && flowMarks.contains char)

/-- Whether a colon stands where it would be neither content nor a separator. -/
def strayColon (inFlow : Bool) (char : Char) (rest : Source) : Bool :=
  inFlow && char == ':' &&
    match rest with
    | [] => false
    | next :: _ => next.char == '?' || flowMarks.contains next.char

/-- Whether what follows a gap cannot belong to the scalar: a comment, the mark of a
document, or a column left of the content of a block. -/
def endsAfter (inFlow : Bool) (floor : Nat) (gap : Gap) (spot : Spot) (rest : Source) : Bool :=
  !gap.isEmpty &&
    (spot.char == '#' || Source.atDocumentMark (spot :: rest) ||
      (!inFlow && spot.column < floor))

/-- The rest of a plain scalar, whose text so far is kept newest first. Gives the
text, whether a line ended after it, and what follows. -/
def scan (inFlow : Bool) (floor : Nat) (text : List Char) (gap : Gap) :
    Source → Option (List Char × Bool × Source)
  | [] => some (text.reverse, gap.broken, [])
  | spot :: rest =>
      if isBlank spot.char || isBreak spot.char then
        if gap.broken && spot.char == '\t' && spot.column < floor then none
        else scan inFlow floor text (gap.add spot.char) rest
      else if endsAfter inFlow floor gap spot rest then
        some (text.reverse, gap.broken, spot :: rest)
      else if strayColon inFlow spot.char rest then none
      else if endsAt inFlow spot.char rest then
        some (text.reverse, gap.broken, spot :: rest)
      else
        scan inFlow floor (spot.char :: gap.after text) Gap.empty rest

end CallPolicy.Yaml.Plain
