import CallPolicy.Yaml.Token

/-!
Contract: what indentation and position mean for tokens.

Owns:
- the open blocks and flow collections while tokens are read;
- the places where a key may turn out to have begun;
- the tokens that opening and closing of blocks stand for.

Does not own: reading of characters.
-/

namespace CallPolicy.Yaml

/-- A place where a key may have begun: the number of tokens before it, whether
nothing but a key may stand there, and its spot. -/
structure KeyStart where
  before : Nat
  required : Bool
  spot : Spot
deriving DecidableEq, Repr

/-- The greatest number of bytes between the start of a key and its colon. -/
def keyReach : Nat := 1024

/-- Whether the colon of a key can no longer follow: it has to be on the same line
and within reach. -/
def KeyStart.isStale (start : KeyStart) (spot : Spot) : Bool :=
  start.spot.line < spot.line || start.spot.index + keyReach < spot.index

/-- The tokens read so far, newest first, with their number; the columns of the open
blocks, innermost first; the key that may have begun, and those that may have begun
around each open flow collection; and whether a key may begin next. -/
structure Layout where
  tokens : List Token
  count : Nat
  columns : List Nat
  keyStart : Option KeyStart
  around : List (Option KeyStart)
  keyAllowed : Bool
deriving DecidableEq, Repr

namespace Layout

/-- The layout before the first token. -/
def start : Layout := ⟨[], 0, [], none, [], true⟩

/-- Whether a flow collection is open. -/
def inFlow (layout : Layout) : Bool :=
  !layout.around.isEmpty

/-- The first column that lies inside the innermost block. -/
def floor (layout : Layout) : Nat :=
  match layout.columns with
  | [] => 0
  | column :: _ => column + 1

/-- Adds a token. -/
def add (layout : Layout) (token : Token) : Layout :=
  { layout with tokens := token :: layout.tokens, count := layout.count + 1 }

/-- Puts tokens, given in order, in front of those that were read after a place. -/
def addAt (layout : Layout) (before : Nat) (tokens : List Token) : Layout :=
  let later := layout.count - before
  { layout with
    tokens := layout.tokens.take later ++ tokens.reverse ++ layout.tokens.drop later
    count := layout.count + tokens.length }

/-- Closes the blocks right of a column. Inside of a flow collection nothing is
closed. -/
def closeBlocks (layout : Layout) (column : Int) : Layout :=
  if layout.inFlow then layout
  else
    let closed := layout.columns.takeWhile fun (opened : Nat) => column < (opened : Int)
    { layout with
      tokens := List.replicate closed.length Token.blockEnd ++ layout.tokens
      count := layout.count + closed.length
      columns := layout.columns.drop closed.length }

/-- Whether a block opens at a column. -/
def opensBlock (layout : Layout) (column : Nat) : Bool :=
  !layout.inFlow && layout.floor ≤ column

/-- Opens a block at a column if it lies inside of the innermost one. -/
def openBlock (layout : Layout) (column : Nat) (token : Token) : Layout :=
  if layout.opensBlock column then
    let opened := layout.add token
    { opened with columns := column :: opened.columns }
  else
    layout

/-- Forgets the key that may have begun. One that is required has to be there. -/
def dropKey? (layout : Layout) : Option Layout :=
  if layout.keyStart.any KeyStart.required then none
  else some { layout with keyStart := none }

/-- A key that may have begun, unless it is stale; a stale one that is required has
to be there. -/
def freshKey? (spot : Spot) (keyStart : Option KeyStart) : Option (Option KeyStart) :=
  match keyStart with
  | none => some none
  | some start =>
      if !start.isStale spot then some (some start)
      else if start.required then none
      else some none

/-- Forgets all keys that may have begun too far away from a spot. -/
def dropStale? (layout : Layout) (spot : Spot) : Option Layout := do
  let keyStart ← freshKey? spot layout.keyStart
  let around ← layout.around.mapM (freshKey? spot)
  some { layout with keyStart, around }

/-- Remembers that a key may begin with the next token. -/
def startKey? (layout : Layout) (spot : Spot) : Option Layout :=
  if layout.keyAllowed then do
    let required := !layout.inFlow && layout.columns.head? == some spot.column
    let dropped ← layout.dropKey?
    some { dropped with keyStart := some ⟨layout.count, required, spot⟩ }
  else
    some layout

/-- Adds a token that may begin a key. No key may begin right after it. -/
def addContent? (layout : Layout) (spot : Spot) (token : Token) : Option Layout := do
  let begun ← layout.startKey? spot
  some { begun.add token with keyAllowed := false }

/-- Adds a token before which no key can have begun. -/
def addMark? (layout : Layout) (keyAllowed : Bool) (token : Token) : Option Layout := do
  let dropped ← layout.dropKey?
  some { dropped.add token with keyAllowed }

/-- Adds a token that stands between the blocks of two documents. -/
def addBetween? (layout : Layout) (token : Token) : Option Layout :=
  (layout.closeBlocks (-1)).addMark? false token

/-- Opens a flow collection. -/
def openFlow? (layout : Layout) (spot : Spot) (token : Token) : Option Layout := do
  let begun ← layout.startKey? spot
  let opened := begun.add token
  some { opened with
    keyStart := none
    around := opened.keyStart :: opened.around
    keyAllowed := true }

/-- Closes a flow collection. Outside of one only the mark is added. -/
def closeFlow? (layout : Layout) (token : Token) : Option Layout := do
  let closed ← layout.addMark? false token
  match closed.around with
  | [] => some closed
  | keyStart :: around => some { closed with keyStart, around }

/-- Adds the mark of an entry of a block sequence. -/
def addEntry? (layout : Layout) (spot : Spot) : Option Layout :=
  if layout.inFlow then layout.addMark? true .blockEntry
  else if layout.keyAllowed then
    (layout.openBlock spot.column .blockSequenceStart).addMark? true .blockEntry
  else none

/-- Adds the mark of a key that is not found by its colon. -/
def addKey? (layout : Layout) (spot : Spot) : Option Layout :=
  if layout.inFlow then layout.addMark? false .key
  else if layout.keyAllowed then
    (layout.openBlock spot.column .blockMappingStart).addMark? true .key
  else none

/-- Adds the mark of a value. If a key may have begun it did, and gets its mark
now. -/
def addValue? (layout : Layout) (spot : Spot) : Option Layout :=
  match layout.keyStart with
  | some start =>
      let column := start.spot.column
      let marked :=
        if layout.opensBlock column then
          let opened := layout.addAt start.before [.blockMappingStart, .key]
          { opened with columns := column :: opened.columns }
        else
          layout.addAt start.before [.key]
      some { marked.add .value with keyStart := none, keyAllowed := false }
  | none =>
      if layout.inFlow then some { layout.add .value with keyAllowed := false }
      else if layout.keyAllowed then
        some { (layout.openBlock spot.column .blockMappingStart).add .value with
          keyAllowed := true }
      else none

/-- All tokens in order, once the text has ended. -/
def finish? (layout : Layout) : Option (List Token) := do
  let closed ← (layout.closeBlocks (-1)).dropKey?
  some closed.tokens.reverse

end Layout

end CallPolicy.Yaml
