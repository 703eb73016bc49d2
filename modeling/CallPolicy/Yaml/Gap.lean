import CallPolicy.Yaml.Source

/-!
Contract: blanks and line breaks inside a scalar.

Owns: what is remembered of a gap, and the text that stands for it when content
follows.

Does not own: what ends a scalar.
-/

namespace CallPolicy.Yaml

/-- Blanks and breaks between two parts of a scalar: the blanks before the first
break, whether there was a break, the first one unless it was escaped, and the
breaks after it. Both lists are kept newest first. -/
structure Gap where
  blanks : List Char
  broken : Bool
  firstBreak : Option Char
  moreBreaks : List Char
deriving DecidableEq, Repr

namespace Gap

/-- No gap. -/
def empty : Gap := ⟨[], false, none, []⟩

/-- The gap that begins with an escaped break. -/
def escaped : Gap := ⟨[], true, none, []⟩

/-- Whether nothing was skipped. -/
def isEmpty (gap : Gap) : Bool :=
  gap.blanks.isEmpty && !gap.broken

/-- Adds a blank or a break. Blanks around breaks are dropped. -/
def add (gap : Gap) (char : Char) : Gap :=
  if isBreak char then
    if gap.broken then { gap with moreBreaks := char :: gap.moreBreaks }
    else ⟨[], true, some char, []⟩
  else if gap.broken then gap
  else { gap with blanks := char :: gap.blanks }

/-- The text of breaks, before the text that is already there. A single line feed
becomes a space, and of several the first is dropped. -/
def foldBreaks (firstBreak : Option Char) (moreBreaks text : List Char) : List Char :=
  match firstBreak with
  | none => moreBreaks ++ text
  | some first =>
      if first = lineFeed then
        if moreBreaks.isEmpty then ' ' :: text else moreBreaks ++ text
      else
        moreBreaks ++ first :: text

/-- The text of a scalar, kept newest first, with the text of the gap after it. -/
def after (gap : Gap) (text : List Char) : List Char :=
  if gap.broken then foldBreaks gap.firstBreak gap.moreBreaks text
  else gap.blanks ++ text

end Gap

end CallPolicy.Yaml
