import CallPolicy.Keyed

/-!
Contract: TOML values, and tables that grow from headers and dotted keys.

Owns:
- values, with the way in which each table was written;
- opening of tables and of elements of table arrays;
- adding of a value under a dotted key.

Does not own: TOML text.
-/

namespace CallPolicy

/-- How a table was written: between braces, under a header of its own, as part of
the header of another table, or as part of a dotted key. -/
inductive TableOrigin where
  | inline
  | header
  | implied
  | dotted
deriving DecidableEq, Repr

/-- A table that was never written itself may still be. -/
def TableOrigin.isOpen : TableOrigin → Bool
  | .implied | .dotted => true
  | _ => false

/-- A TOML value. Numbers with decimals and points in time are kept as they were
written. An array of tables holds the members of each element, in order. -/
inductive Toml where
  | string (value : String)
  | integer (value : Int)
  | bool (value : Bool)
  | real (text : String)
  | moment (text : String)
  | array (items : List Toml)
  | table (origin : TableOrigin) (members : List (String × Toml))
  | tables (elements : List (List (String × Toml)))
deriving Inhabited, Repr

namespace Toml

/-- The members of a table, each name once. -/
abbrev Members := List (String × Toml)

/-- Puts a value under a name, in place of the one that is there. -/
def put (name : String) (value : Toml) : Members → Members
  | [] => [(name, value)]
  | entry :: rest => if entry.1 = name then (name, value) :: rest else entry :: put name value rest

/-- Changes the table at the end of a path. Tables that are missing are created, and
an array of tables stands for its last element. A dotted key may only go through
tables that are still open. -/
def changeAt (isDotted : Bool) (change : TableOrigin → Members → Option Members) :
    List String → TableOrigin → Members → Option Members
  | [], origin, members => change origin members
  | name :: rest, _, members =>
      match lookupEntry name members with
      | none =>
          let origin := if isDotted then TableOrigin.dotted else TableOrigin.implied
          (changeAt isDotted change rest origin []).map fun inner =>
            put name (.table origin inner) members
      | some (.table origin inner) =>
          if origin = .inline ∨ (isDotted ∧ origin.isOpen = false) then none
          else
            (changeAt isDotted change rest origin inner).map fun changed =>
              put name (.table origin changed) members
      | some (.tables elements) =>
          match elements.reverse with
          | [] => none
          | last :: before =>
              (changeAt isDotted change rest .header last).map fun changed =>
                put name (.tables (changed :: before).reverse) members
      | some _ => none

/-- Adds a member that must not be there yet. -/
def addNew (name : String) (value : Toml) (members : Members) : Option Members :=
  if (lookupEntry name members).isSome then none else some (put name value members)

/-- Adds a value under a dotted key, given by the names before the last one and the
last one. The table at the end of a path has to come from dotted keys itself. -/
def addValue (path : List String) (name : String) (value : Toml) (origin : TableOrigin)
    (members : Members) : Option Members :=
  changeAt true
    (fun found inner =>
      if (found == .dotted) == path.isEmpty then none else addNew name value inner)
    path origin members

/-- Opens the table of a header. It must not have been written before. -/
def openTable (path : List String) (name : String) (members : Members) : Option Members :=
  changeAt false
    (fun _ inner =>
      match lookupEntry name inner with
      | none => some (put name (.table .header []) inner)
      | some (.table .implied found) => some (put name (.table .header found) inner)
      | some _ => none)
    path .header members

/-- Opens a new element of an array of tables. -/
def openElement (path : List String) (name : String) (members : Members) : Option Members :=
  changeAt false
    (fun _ inner =>
      match lookupEntry name inner with
      | none => some (put name (.tables [[]]) inner)
      | some (.tables elements) => some (put name (.tables (elements ++ [[]])) inner)
      | some _ => none)
    path .header members

end Toml

end CallPolicy
