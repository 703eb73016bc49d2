import CallPolicy.Json.Parser
import CallPolicy.Proofs.WrittenTokens

/-!
Contract: values are read from the tokens of which they consist.

Owns:
- the depth of a value;
- what the parser does with the tokens of a value, whatever is open around them;
- that a written value is read back exactly when its depth is within the limit.

Does not own: sorting of members, and what values stand for.
-/

namespace CallPolicy.Json

mutual

/-- How many containers of a value stand in each other. -/
def depth : Json → Nat
  | .null | .bool _ | .number _ | .string _ => 0
  | .array items => itemsDepth items + 1
  | .object members => membersDepth members + 1
termination_by structural value => value

def itemsDepth : List Json → Nat
  | [] => 0
  | item :: rest => max (depth item) (itemsDepth rest)
termination_by structural items => items

def membersDepth : List (String × Json) → Nat
  | [] => 0
  | (_, value) :: rest => max (depth value) (membersDepth rest)
termination_by structural members => members

end

/-! ### Nesting -/

namespace Parser

theorem run_firstItem (value : Json) (stack : List Frame) (rest : List Token) :
    run (.firstItem stack) (tokens value ++ rest) =
      run (.value (.items [] :: stack)) (tokens value ++ rest) := by
  cases value with
  | null | bool value | number value | string value => rfl
  | array items => cases items <;> rfl
  | object members => cases members <;> rfl

mutual

theorem run_tokens : ∀ (value : Json) (stack : List Frame) (rest : List Token),
    run (.value stack) (tokens value ++ rest) = run (.complete value stack) rest
  | .null, _, _ | .bool _, _, _ | .number _, _, _ | .string _, _, _ => rfl
  | .array [], _, _ | .object [], _, _ => rfl
  | .array (item :: items), stack, rest => by
      change run (.firstItem stack) (tokens item ++ itemTokens items ++ rest) = _
      rw [List.append_assoc, run_firstItem, run_tokens item, run_itemTokens items]
      rfl
  | .object ((name, value) :: members), stack, rest => by
      change run (.value (.members [] name :: stack))
        (tokens value ++ memberTokens members ++ rest) = _
      rw [List.append_assoc, run_tokens value, run_memberTokens members]
      rfl

theorem run_itemTokens : ∀ (items : List Json) (item : Json) (done : List Json)
    (stack : List Frame) (rest : List Token),
    run (.complete item (.items done :: stack)) (itemTokens items ++ rest) =
      run (.complete (.array (done.reverse ++ item :: items)) stack) rest
  | [], item, done, stack, rest => by
      change run (.complete (.array (item :: done).reverse) stack) rest = _
      rw [List.reverse_cons]
  | next :: items, item, done, stack, rest => by
      change run (.value (.items (item :: done) :: stack))
        (tokens next ++ itemTokens items ++ rest) = _
      rw [List.append_assoc, run_tokens next, run_itemTokens items, List.reverse_cons,
        List.append_assoc, List.singleton_append]

theorem run_memberTokens : ∀ (members : List (String × Json)) (value : Json)
    (done : List (String × Json)) (name : String) (stack : List Frame) (rest : List Token),
    run (.complete value (.members done name :: stack)) (memberTokens members ++ rest) =
      run (.complete (.object (done.reverse ++ (name, value) :: members)) stack) rest
  | [], value, done, name, stack, rest => by
      change run (.complete (.object ((name, value) :: done).reverse) stack) rest = _
      rw [List.reverse_cons]
  | (next, inner) :: members, value, done, name, stack, rest => by
      change run (.value (.members ((name, value) :: done) next :: stack))
        (tokens inner ++ memberTokens members ++ rest) = _
      rw [List.append_assoc, run_tokens inner, run_memberTokens members, List.reverse_cons,
        List.append_assoc, List.singleton_append]

end

theorem value?_tokens (value : Json) : value? (tokens value) = some value := by
  have alone := run_tokens value [] []
  rw [List.append_nil] at alone
  rw [value?, alone]
  rfl

end Parser

/-! ### Depth -/

namespace Token

variable {limit : Nat}

theorem staysWithin_cons_iff {level : Nat} {token : Token} {rest : List Token} :
    staysWithin limit level (token :: rest) = true ↔
      depthAfter level token ≤ limit ∧ staysWithin limit (depthAfter level token) rest = true := by
  simp only [staysWithin, Bool.and_eq_true, decide_eq_true_eq]

/-- Two parts on the level inside a bracket stay within the limit with what is deeper of them. -/
theorem max_within_iff {level first second : Nat} {others : Prop} :
    (level + 1 ≤ limit ∧ level + 1 + first ≤ limit ∧ level + 1 + second ≤ limit ∧ others) ↔
      level + 1 + max first second ≤ limit ∧ others := by
  have deeper : level + 1 + max first second ≤ limit ↔
      level + 1 ≤ limit ∧ level + 1 + first ≤ limit ∧ level + 1 + second ≤ limit := by omega
  rw [deeper, and_assoc, and_assoc]

mutual

theorem staysWithin_tokens_iff : ∀ (value : Json) (level : Nat) (rest : List Token),
    staysWithin limit level (tokens value ++ rest) = true ↔
      level + value.depth ≤ limit ∧ staysWithin limit level rest = true
  | .null, _, _ | .bool _, _, _ | .number _, _, _ | .string _, _, _ => staysWithin_cons_iff
  | .array [], level, rest => by
      simp only [tokens, depth, itemsDepth, List.cons_append, List.nil_append,
        staysWithin_cons_iff, depthAfter, Nat.add_sub_cancel, Nat.zero_add]
      exact and_congr_right fun within => and_iff_right (Nat.le_of_succ_le within)
  | .object [], level, rest => by
      simp only [tokens, depth, membersDepth, List.cons_append, List.nil_append,
        staysWithin_cons_iff, depthAfter, Nat.add_sub_cancel, Nat.zero_add]
      exact and_congr_right fun within => and_iff_right (Nat.le_of_succ_le within)
  | .array (item :: items), level, rest => by
      simp only [tokens, List.cons_append, List.append_assoc, staysWithin_cons_iff, depthAfter]
      rw [depth, itemsDepth, ← Nat.add_assoc, Nat.add_right_comm, ← max_within_iff]
      refine and_congr_right fun within => ?_
      rw [staysWithin_tokens_iff item, staysWithin_itemTokens_iff items level rest within]
  | .object ((name, value) :: members), level, rest => by
      simp only [tokens, List.cons_append, List.append_assoc, staysWithin_cons_iff, depthAfter,
        and_self_left]
      rw [depth, membersDepth, ← Nat.add_assoc, Nat.add_right_comm, ← max_within_iff]
      refine and_congr_right fun within => ?_
      rw [staysWithin_tokens_iff value, staysWithin_memberTokens_iff members level rest within]

theorem staysWithin_itemTokens_iff : ∀ (items : List Json) (level : Nat) (rest : List Token),
    level + 1 ≤ limit → (staysWithin limit (level + 1) (itemTokens items ++ rest) = true ↔
      level + 1 + itemsDepth items ≤ limit ∧ staysWithin limit level rest = true)
  | [], level, rest, within => by
      refine staysWithin_cons_iff.trans (and_congr_left fun _ => iff_of_true ?_ within)
      exact Nat.le_of_succ_le within
  | item :: items, level, rest, within => by
      simp only [itemTokens, List.cons_append, List.append_assoc, staysWithin_cons_iff, depthAfter]
      rw [staysWithin_tokens_iff item, staysWithin_itemTokens_iff items level rest within]
      exact max_within_iff

theorem staysWithin_memberTokens_iff : ∀ (members : List (String × Json)) (level : Nat)
    (rest : List Token),
    level + 1 ≤ limit → (staysWithin limit (level + 1) (memberTokens members ++ rest) = true ↔
      level + 1 + membersDepth members ≤ limit ∧ staysWithin limit level rest = true)
  | [], level, rest, within => by
      refine staysWithin_cons_iff.trans (and_congr_left fun _ => iff_of_true ?_ within)
      exact Nat.le_of_succ_le within
  | (name, value) :: members, level, rest, within => by
      simp only [memberTokens, List.cons_append, List.append_assoc, staysWithin_cons_iff,
        depthAfter, and_self_left]
      rw [staysWithin_tokens_iff value, staysWithin_memberTokens_iff members level rest within]
      exact max_within_iff

end

end Token

/-! ### Written values -/

/-- A text that gives the tokens of a value spells the value, unless it is too deep. -/
theorem parse?_of_reads {value : Json} {text : List Char} (reads : Token.Reads text (tokens value)) :
    parse? text = if value.depth ≤ depthLimit then some value else none := by
  have within := @Token.staysWithin_tokens_iff depthLimit value 0 []
  rw [List.append_nil, Nat.zero_add, Token.staysWithin, and_iff_left rfl] at within
  rw [parse?, reads.ofText?, Option.bind_some, ofTokens?, Parser.value?_tokens]
  exact if_congr within rfl rfl

end CallPolicy.Json
