import CallPolicy.Text.Ranges
import CallPolicy.Text.Table.CaseIgnorable
import CallPolicy.Text.Table.Cased
import CallPolicy.Text.Table.Lowercase

/-!
Contract: lower case for the whole character set.

Owns: the mapping of single characters, the one character that becomes two, and
the sigma whose form depends on its neighbours.

Does not own: upper case or language-dependent mappings.
-/

namespace CallPolicy.Text

/-- The lowercase form of one character, seen on its own. -/
def lowerChar (char : Char) : Char :=
  let code := char.toNat
  match Table.lowercase.find? fun run =>
      run.first ≤ code && code ≤ run.last && (code - run.first) % run.step == 0 with
  | some run => Char.ofNat (run.target + (code - run.first))
  | none => char

/-- Whether the nearest character that is not ignorable for case has case. -/
def casedNext (neighbours : List Char) : Bool :=
  match neighbours.dropWhile fun char => Table.caseIgnorable.contains char.toNat with
  | [] => false
  | char :: _ => Table.cased.contains char.toNat

/-- Writes the rest of a text in lower case. What stands before it and what is written
already are both given newest first. -/
def lowerLoop : List Char → List Char → List Char → List Char
  | [], _, done => done.reverse
  | char :: rest, before, done =>
      if char.toNat = 0x3A3 then
        let final := casedNext before && !casedNext rest
        lowerLoop rest (char :: before) (Char.ofNat (if final then 0x3C2 else 0x3C3) :: done)
      else if char.toNat = 0x130 then
        lowerLoop rest (char :: before) (Char.ofNat 0x307 :: 'i' :: done)
      else
        lowerLoop rest (char :: before) (lowerChar char :: done)

/-- A text in lower case.

A capital sigma after a cased character and before none is the final sigma, and
the dotted capital I becomes an i followed by a combining dot. -/
def toLower (text : String) : String :=
  String.ofList (lowerLoop text.toList [] [])

end CallPolicy.Text
