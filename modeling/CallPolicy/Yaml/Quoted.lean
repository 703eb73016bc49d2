import CallPolicy.Text.Ascii
import CallPolicy.Yaml.Gap

/-!
Contract: scalars between quotes.

Owns: single and double quotes, the escapes of double quotes, and folding of the
lines of both.

Does not own: where a quoted scalar may stand.
-/

namespace CallPolicy.Yaml.Quoted

/-- The rest of a scalar in single quotes, in which a doubled quote stands for one.
The text read so far is kept newest first. -/
def single (text : List Char) (gap : Gap) : Source → Option (List Char × Source)
  | [] => none
  | spot :: rest =>
      if Source.atDocumentMark (spot :: rest) then none
      else if isBlank spot.char || isBreak spot.char then single text (gap.add spot.char) rest
      else if spot.char = '\x27' then
        match rest with
        | next :: more =>
            if next.char = '\x27' then single ('\x27' :: gap.after text) Gap.empty more
            else some ((gap.after text).reverse, rest)
        | [] => some ((gap.after text).reverse, [])
      else
        single (spot.char :: gap.after text) Gap.empty rest

/-- What a backslash and a character stand for. -/
inductive Escape where
  | char (value : Char)
  | code (digits : Nat)
deriving DecidableEq, Repr

/-- The escapes of single characters. -/
def characterEscapes : List (Char × Nat) :=
  [('0', 0), ('a', 7), ('b', 8), ('t', 9), ('\t', 9), ('n', 0xA), ('v', 0xB), ('f', 0xC),
    ('r', 0xD), ('e', 0x1B), (' ', 0x20), ('"', 0x22), ('/', 0x2F), ('\\', 0x5C), ('N', 0x85),
    ('_', 0xA0), ('L', 0x2028), ('P', 0x2029)]

/-- The escapes that are followed by hexadecimal digits, with their number. -/
def codeEscapes : List (Char × Nat) :=
  [('x', 2), ('u', 4), ('U', 8)]

/-- What an escape stands for, given by the character after the backslash. -/
def Escape.ofChar? (char : Char) : Option Escape :=
  match characterEscapes.find? fun entry => entry.1 == char with
  | some entry => some (.char (Char.ofNat entry.2))
  | none =>
      (codeEscapes.find? fun entry => entry.1 == char).map fun entry => .code entry.2

/-- What is being read between double quotes. -/
inductive State where
  | content (gap : Gap)
  | escape
  | code (left value : Nat)
deriving DecidableEq, Repr

/-- The character with a code, if there is one. -/
def charOfCode? (code : Nat) : Option Char :=
  if code.isValidChar then some (Char.ofNat code) else none

/-- The rest of a scalar in double quotes. The text read so far is kept newest
first. -/
def double (text : List Char) (state : State) : Source → Option (List Char × Source)
  | [] => none
  | spot :: rest =>
      match state with
      | .content gap =>
          if Source.atDocumentMark (spot :: rest) then none
          else if isBlank spot.char || isBreak spot.char then
            double text (.content (gap.add spot.char)) rest
          else if spot.char = '"' then some ((gap.after text).reverse, rest)
          else if spot.char = '\\' then double (gap.after text) .escape rest
          else double (spot.char :: gap.after text) (.content Gap.empty) rest
      | .escape =>
          if isBreak spot.char then double text (.content Gap.escaped) rest
          else
            match Escape.ofChar? spot.char with
            | some (.char value) => double (value :: text) (.content Gap.empty) rest
            | some (.code digits) => double text (.code digits 0) rest
            | none => none
      | .code left value =>
          match Text.Ascii.hexValue? spot.char.toNat with
          | none => none
          | some digit =>
              let value := value * 16 + digit
              if left ≤ 1 then
                match charOfCode? value with
                | some char => double (char :: text) (.content Gap.empty) rest
                | none => none
              else
                double text (.code (left - 1) value) rest

end CallPolicy.Yaml.Quoted
