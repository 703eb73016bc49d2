import CallPolicy.Json.Parser

/-!
Contract: the members of a JSON object, each read on its own.

Owns:
- the parts into which an object is cut by its separators;
- what has to hold of a value that is never read: that brackets and separators are
  in order, at any depth.

Does not own: which members are read.
-/

namespace CallPolicy.Json

namespace Token

/-- Cuts the content of an object at the commas between its members. The depth counts
the open brackets of the member at hand, whose tokens are kept newest first, like
the members before it. Gives the members and what follows the closing bracket. -/
def cutMembers (depth : Nat) (member : List Token) (members : List (List Token)) :
    List Token → Option (List (List Token) × List Token)
  | [] => none
  | token :: rest =>
      match depth, token with
      | 0, .comma => cutMembers 0 [] (member.reverse :: members) rest
      | 0, .closeObject => some ((member.reverse :: members).reverse, rest)
      | _, _ => cutMembers (depthAfter depth token) (token :: member) members rest

/-- A token that stands for a value, in place of one that stands for none. -/
def placeholder : Token → Token
  | .brokenString => .string ""
  | .hugeNumber => .scalar .null
  | token => token

/-- Whether tokens are in the order of a value, readable or not. -/
def formValue (tokens : List Token) : Bool :=
  (Parser.value? (tokens.map placeholder)).isSome

end Token

/-- The name of a member, and its value if it can be read. -/
def member? : List Token → Option (String × Option Json)
  | .string name :: .colon :: value =>
      if Token.formValue value then some (name, ofTokens? value) else none
  | _ => none

/-- The members of the object that tokens spell. Each of them has its value if that
can be read. -/
def members? : List Token → Option (List (String × Option Json))
  | [.openObject, .closeObject] => some []
  | .openObject :: content =>
      match Token.cutMembers 0 [] [] content with
      | some (members, []) => members.mapM member?
      | _ => none
  | _ => none

end CallPolicy.Json
