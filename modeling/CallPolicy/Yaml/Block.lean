import CallPolicy.Yaml.Gap

/-!
Contract: scalars that are written as a block of lines.

Owns: the header of such a scalar, its indentation, folding and the end of its
text.

Does not own: the blocks around it.
-/

namespace CallPolicy.Yaml.Block

/-- What becomes of the breaks at the end. -/
inductive Chomping where
  | strip
  | clip
  | keep
deriving DecidableEq, Repr

/-- What a header says: the treatment of the end, and the indentation relative to
the block around if it is given. -/
structure Header where
  chomping : Chomping
  indent : Option Nat
deriving DecidableEq, Repr

/-- The chomping that a sign asks for. -/
def Chomping.ofSign? (char : Char) : Option Chomping :=
  if char = '+' then some .keep else if char = '-' then some .strip else none

/-- The indentation that a digit asks for; zero is none. -/
def indentOf? (char : Char) : Option Nat :=
  if char.isDigit && char != '0' then some (char.toNat - '0'.toNat) else none

/-- Reads sign and digit, in any order, each at most once. -/
def header? (source : Source) : Option (Header × Source) :=
  match source with
  | [] => some (⟨.clip, none⟩, [])
  | first :: rest =>
      match Chomping.ofSign? first.char with
      | some chomping =>
          match rest with
          | second :: more =>
              if second.char.isDigit then
                (indentOf? second.char).map fun indent => (⟨chomping, some indent⟩, more)
              else
                some (⟨chomping, none⟩, rest)
          | [] => some (⟨chomping, none⟩, [])
      | none =>
          if first.char.isDigit then
            (indentOf? first.char).map fun indent =>
              match rest with
              | second :: more =>
                  match Chomping.ofSign? second.char with
                  | some chomping => (⟨chomping, some indent⟩, more)
                  | none => (⟨.clip, some indent⟩, rest)
              | [] => (⟨.clip, some indent⟩, [])
          else
            some (⟨.clip, none⟩, source)

/-- Reads what follows the header on its line: blanks, and a comment. -/
def lineAfter? (source : Source) : Option Source :=
  match (source.skipWhile isBlank).skipComment with
  | [] => some []
  | spot :: rest => if isBreak spot.char then some rest else none

/-- The indentation of the deepest of the empty lines at the start and of the first
line with content, with the breaks of the empty lines, newest first. A tab in place
of indentation is refused. -/
def leading (deepest : Nat) (breaks : List Char) : Source → Option (Nat × List Char × Source)
  | [] => some (deepest, breaks, [])
  | spot :: rest =>
      if spot.char = ' ' then leading deepest breaks rest
      else if spot.char = '\t' then none
      else
        let deepest := max deepest spot.column
        if isBreak spot.char then leading deepest (spot.char :: breaks) rest
        else some (deepest, breaks, spot :: rest)

/-- What is known between two characters of the content: the text, newest first;
the break that ended the last line and those of the empty lines after it; whether
the last line began with a blank; and whether a line is being read. -/
structure State where
  text : List Char
  lineBreak : Option Char
  emptyLines : List Char
  indented : Bool
  inLine : Bool
deriving DecidableEq, Repr

/-- Begins a line of content. In folded text the break before it becomes a space
or vanishes, unless one of the two lines begins with a blank. -/
def State.beginLine (state : State) (folded : Bool) (char : Char) : State :=
  let text :=
    if folded && state.lineBreak == some lineFeed && !state.indented && !isBlank char then
      Gap.foldBreaks state.lineBreak state.emptyLines state.text
    else
      state.emptyLines ++ state.lineBreak.toList ++ state.text
  ⟨char :: text, none, [], isBlank char, true⟩

/-- Reads the lines with at least the given indentation. -/
def lines (folded : Bool) (indent : Nat) (state : State) : Source → Option (State × Source)
  | [] => some (state, [])
  | spot :: rest =>
      if state.inLine then
        if isBreak spot.char then
          lines folded indent { state with lineBreak := some spot.char, inLine := false } rest
        else
          lines folded indent { state with text := spot.char :: state.text } rest
      else if spot.column < indent && spot.char = ' ' then lines folded indent state rest
      else if spot.column < indent && spot.char = '\t' then none
      else if isBreak spot.char then
        lines folded indent { state with emptyLines := spot.char :: state.emptyLines } rest
      else if spot.column < indent then some (state, spot :: rest)
      else lines folded indent (state.beginLine folded spot.char) rest

/-- The whole text of a block. -/
def State.finish (state : State) (chomping : Chomping) : List Char :=
  match chomping with
  | .strip => state.text.reverse
  | .clip => (state.lineBreak.toList ++ state.text).reverse
  | .keep => (state.emptyLines ++ state.lineBreak.toList ++ state.text).reverse

/-- Reads a block scalar after its indicator. The floor is the first column that
lies inside the block around; no indentation is less than one. -/
def scan (folded : Bool) (floor : Nat) (source : Source) : Option (List Char × Source) := do
  let (header, afterHeader) ← header? source
  let content ← lineAfter? afterHeader
  let (indent, breaks, start) ←
    match header.indent with
    | some relative => some (floor - 1 + relative, [], content)
    | none =>
        (leading 0 [] content).map fun found => (max found.1 (max floor 1), found.2)
  let (state, rest) ← lines folded indent ⟨[], none, breaks, false, false⟩ start
  some (state.finish header.chomping, rest)

end CallPolicy.Yaml.Block
