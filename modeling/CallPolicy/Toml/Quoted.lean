import CallPolicy.Text.Ascii

/-!
Contract: TOML strings.

Owns: basic and literal strings, on one line and on several.

Does not own: where a string may stand.
-/

namespace CallPolicy.Toml

/-- The characters of comments and strings: everything except controls, which the
tab is not one of. -/
def isTextChar (char : Char) : Bool :=
  char == '\t' || (0x20 ≤ char.toNat && char.toNat != 0x7F)

/-- Whether a character is a space or a tab. -/
def isBlank (char : Char) : Bool :=
  char == ' ' || char == '\t'

/-- What follows a line break, if one stands here. -/
def lineBreak? : List Char → Option (List Char)
  | '\n' :: rest => some rest
  | '\x0d' :: '\n' :: rest => some rest
  | _ => none

namespace Quoted

/-- What follows the first quotes of a string on several lines. A line break right
after them is not part of it. -/
def afterOpening (source : List Char) : List Char :=
  (lineBreak? source).getD source

/-- The end of a string on several lines, when two more quotes follow one of its
quotes: up to two further quotes still belong to it. -/
def closeLines (mark : Char) (text : List Char) : List Char → Option (List Char × List Char)
  | second :: third :: rest =>
      if second = mark && third = mark then
        let extra := ((rest.take 2).takeWhile fun char => char == mark).length
        some ((List.replicate extra mark ++ text).reverse, rest.drop extra)
      else none
  | _ => none

/-- The rest of a literal string, whose text so far is kept newest first. -/
def literal (lines : Bool) (text : List Char) : List Char → Option (List Char × List Char)
  | [] => none
  | char :: rest =>
      if char = '\x27' then
        if !lines then some (text.reverse, rest)
        else
          match closeLines char text rest with
          | some closed => some closed
          | none => literal lines (char :: text) rest
      else if lines && char = '\n' then literal lines ('\n' :: text) rest
      else if lines && char = '\x0d' then
        match rest with
        | '\n' :: more => literal lines ('\n' :: text) more
        | _ => none
      else if isTextChar char then literal lines (char :: text) rest
      else none

/-- What is being read inside of a basic string. After a backslash at the end of a
line all blanks and breaks are passed over. -/
inductive State where
  | content
  | escape
  | code (left value : Nat)
  | lineEnd
  | passing
deriving DecidableEq, Repr

/-- The characters that single letters after a backslash stand for. -/
def escapes : List (Char × Char) :=
  [('b', '\x08'), ('t', '\t'), ('n', '\n'), ('f', '\x0c'), ('r', '\x0d'), ('"', '"'),
    ('\\', '\\')]

/-- What a character after a backslash begins or stands for. -/
inductive Escape where
  | char (value : Char)
  | code (digits : Nat)
  | lineEnd
deriving DecidableEq, Repr

/-- The escape that a character after a backslash begins. -/
def Escape.ofChar? (lines : Bool) (char : Char) : Option Escape :=
  match escapes.find? fun entry => entry.1 == char with
  | some entry => some (.char entry.2)
  | none =>
      if char = 'u' then some (.code 4)
      else if char = 'U' then some (.code 8)
      else if lines && (isBlank char || char == '\n' || char == '\x0d') then some .lineEnd
      else none

/-- The rest of a basic string, whose text so far is kept newest first. -/
def basic (lines : Bool) (text : List Char) (state : State) :
    List Char → Option (List Char × List Char)
  | [] => none
  | char :: rest =>
      match state with
      | .code left value =>
          match Text.Ascii.hexValue? char.toNat with
          | none => none
          | some digit =>
              let value := value * 16 + digit
              if 1 < left then basic lines text (.code (left - 1) value) rest
              else if value.isValidChar then
                basic lines (Char.ofNat value :: text) .content rest
              else none
      | .escape =>
          match Escape.ofChar? lines char with
          | some (.char value) => basic lines (value :: text) .content rest
          | some (.code digits) => basic lines text (.code digits 0) rest
          | some .lineEnd =>
              if char = '\n' then basic lines text .passing rest
              else if char = '\x0d' then
                match rest with
                | '\n' :: more => basic lines text .passing more
                | _ => none
              else basic lines text .lineEnd rest
          | none => none
      | .lineEnd =>
          if isBlank char then basic lines text .lineEnd rest
          else if char = '\n' then basic lines text .passing rest
          else if char = '\x0d' then
            match rest with
            | '\n' :: more => basic lines text .passing more
            | _ => none
          else none
      | .content | .passing =>
          if state == .passing && (isBlank char || char == '\n') then
            basic lines text .passing rest
          else if char = '\x0d' then
            match rest with
            | '\n' :: more =>
                if !lines then none
                else if state == .passing then basic lines text .passing more
                else basic lines ('\n' :: text) .content more
            | _ => none
          else if char = '"' then
            if !lines then some (text.reverse, rest)
            else
              match closeLines char text rest with
              | some closed => some closed
              | none => basic lines (char :: text) .content rest
          else if char = '\\' then basic lines text .escape rest
          else if (lines && char == '\n') || isTextChar char then
            basic lines (char :: text) .content rest
          else none

/-- A string on one line, if one begins here. -/
def line? (source : List Char) : Option (List Char × List Char) :=
  match source with
  | '"' :: rest => basic false [] .content rest
  | '\x27' :: rest => literal false [] rest
  | _ => none

/-- A string, if one begins here. Three quotes begin one on several lines. -/
def string? (source : List Char) : Option (List Char × List Char) :=
  match source with
  | '"' :: '"' :: '"' :: rest => basic true [] .content (afterOpening rest)
  | '\x27' :: '\x27' :: '\x27' :: rest => literal true [] (afterOpening rest)
  | _ => line? source

end Quoted

end CallPolicy.Toml
