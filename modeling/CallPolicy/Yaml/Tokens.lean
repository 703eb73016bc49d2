import CallPolicy.Yaml.Block
import CallPolicy.Yaml.Layout
import CallPolicy.Yaml.Plain
import CallPolicy.Yaml.Quoted

/-!
Contract: YAML text as tokens.

Owns: what is skipped between tokens, and the kind of token that each character
begins.

Does not own: the layout that the tokens are added to.
-/

namespace CallPolicy.Yaml

/-- Skips blanks, comments and line ends. Tabs are skipped inside of flow
collections and where no key may begin; outside of flow collections a key may begin
on each new line. Gives whether a key may begin next, and what follows. -/
def skipToToken (inFlow keyAllowed inComment : Bool) : Source → Bool × Source
  | [] => (keyAllowed, [])
  | spot :: rest =>
      if isBreak spot.char then skipToToken inFlow (keyAllowed || !inFlow) false rest
      else if inComment then skipToToken inFlow keyAllowed true rest
      else if spot.column == 0 && spot.char == byteOrderMark then
        skipToToken inFlow keyAllowed false rest
      else if spot.char = ' ' || (spot.char = '\t' && (inFlow || !keyAllowed)) then
        skipToToken inFlow keyAllowed false rest
      else if spot.char = '#' then skipToToken inFlow keyAllowed true rest
      else (keyAllowed, spot :: rest)

namespace Layout

/-- Adds a token that was read from text and may begin a key. -/
def addRead? (layout : Layout) (spot : Spot) (read : Option (Token × Source)) :
    Option (Layout × Source) := do
  let (token, rest) ← read
  some (← layout.addContent? spot token, rest)

/-- Adds a quoted scalar. -/
def addQuoted? (layout : Layout) (spot : Spot) (read : Option (List Char × Source)) :
    Option (Layout × Source) :=
  layout.addRead? spot (read.map fun found => (.scalar false (String.ofList found.1), found.2))

/-- Adds a plain scalar. If a line ended after it a key may begin next. -/
def addPlain? (layout : Layout) (spot : Spot) (source : Source) :
    Option (Layout × Source) := do
  let begun ← layout.startKey? spot
  let (text, broken, rest) ← Plain.scan layout.inFlow layout.floor [] Gap.empty source
  some ({ begun.add (.scalar true (String.ofList text)) with keyAllowed := broken }, rest)

/-- Adds a block scalar, from the character after its indicator. -/
def addBlock? (layout : Layout) (folded : Bool) (source : Source) :
    Option (Layout × Source) := do
  let dropped ← layout.dropKey?
  let (text, rest) ← Block.scan folded layout.floor source
  some ({ dropped.add (.scalar false (String.ofList text)) with keyAllowed := true }, rest)

/-- Adds the token that begins with a spot, when no mark of a document stands
there. -/
def addNext? (layout : Layout) (spot : Spot) (rest : Source) : Option (Layout × Source) :=
  match spot.char with
  | '[' => (layout.openFlow? spot .flowSequenceStart).map fun next => (next, rest)
  | '\x7b' => (layout.openFlow? spot .flowMappingStart).map fun next => (next, rest)
  | ']' => (layout.closeFlow? .flowSequenceEnd).map fun next => (next, rest)
  | '\x7d' => (layout.closeFlow? .flowMappingEnd).map fun next => (next, rest)
  | ',' => (layout.addMark? true .flowEntry).map fun next => (next, rest)
  | '*' =>
      layout.addRead? spot ((Token.name? rest).map fun found => (.alias found.1, found.2))
  | '&' =>
      layout.addRead? spot ((Token.name? rest).map fun found => (.anchor found.1, found.2))
  | '!' => layout.addRead? spot (Token.tag? layout.inFlow (spot :: rest))
  | '\x27' => layout.addQuoted? spot (Quoted.single [] Gap.empty rest)
  | '"' => layout.addQuoted? spot (Quoted.double [] (.content Gap.empty) rest)
  | char =>
      if char = '-' && rest.atGap then (layout.addEntry? spot).map fun next => (next, rest)
      else if char = '?' && (layout.inFlow || rest.atGap) then
        (layout.addKey? spot).map fun next => (next, rest)
      else if char = ':' && (layout.inFlow || rest.atGap) then
        (layout.addValue? spot).map fun next => (next, rest)
      else if char = '|' && !layout.inFlow then layout.addBlock? false rest
      else if char = '>' && !layout.inFlow then layout.addBlock? true rest
      else if Plain.startsHere layout.inFlow (spot :: rest) then
        layout.addPlain? spot (spot :: rest)
      else none

/-- Adds the token that begins with a spot. -/
def addToken? (layout : Layout) (spot : Spot) (rest : Source) : Option (Layout × Source) := do
  let fresh ← layout.dropStale? spot
  let closed := fresh.closeBlocks spot.column
  if spot.column = 0 && spot.char = '%' then
    let (token, after) ← Token.directive? rest
    some (← closed.addBetween? token, after)
  else if Source.atIndicator '-' (spot :: rest) then
    some (← closed.addBetween? .documentStart, rest.drop 2)
  else if Source.atIndicator '.' (spot :: rest) then
    some (← closed.addBetween? .documentEnd, rest.drop 2)
  else closed.addNext? spot rest

/-- Adds all tokens of a text. Each of them takes at least one character, so as
many steps as there are characters are enough. -/
def addAll? : Nat → Layout → Source → Option Layout
  | 0, layout, _ => some layout
  | steps + 1, layout, source =>
      match skipToToken layout.inFlow layout.keyAllowed false source with
      | (_, []) => some layout
      | (keyAllowed, spot :: rest) =>
          match addToken? { layout with keyAllowed } spot rest with
          | some (next, after) => addAll? steps next after
          | none => none

end Layout

/-- The tokens of a text. -/
def Token.ofText? (text : List Char) : Option (List Token) := do
  let source ← Source.ofText? text
  (← Layout.start.addAll? source.length source).finish?

end CallPolicy.Yaml
