import CallPolicy.Json.Printer
import CallPolicy.Proofs.WrittenNumbers

/-!
Contract: the text of a value consists of the tokens of the value.

Owns:
- the tokens of a value, in their order;
- texts from which the automaton gets given tokens, and how they are put together;
- what both forms of writing a value have in common;
- that each of them gives the tokens of the value, where its numbers are integers of 64 bits.

Does not own: how tokens nest into values.

## Where a token ends

A string ends with its quote, but a word or a number ends only where something stands that does
not continue it. So a text is read on its own terms only in front of an end, and what stands
behind a value has to begin with one: a comma, a bracket or a blank.
-/

namespace CallPolicy.Json

mutual

def tokens : Json → List Token
  | .null => [.scalar .null]
  | .bool value => [.scalar (.bool value)]
  | .number value => [.scalar (.number value)]
  | .string value => [.string value]
  | .array [] => [.openArray, .closeArray]
  | .array (item :: rest) => .openArray :: (tokens item ++ itemTokens rest)
  | .object [] => [.openObject, .closeObject]
  | .object ((name, value) :: rest) =>
      .openObject :: .string name :: .colon :: (tokens value ++ memberTokens rest)
termination_by structural value => value

/-- The tokens of the items after the first, and the closing bracket. -/
def itemTokens : List Json → List Token
  | [] => [.closeArray]
  | item :: rest => .comma :: (tokens item ++ itemTokens rest)
termination_by structural items => items

/-- The tokens of the members after the first, and the closing bracket. -/
def memberTokens : List (String × Json) → List Token
  | [] => [.closeObject]
  | (name, value) :: rest =>
      .comma :: .string name :: .colon :: (tokens value ++ memberTokens rest)
termination_by structural members => members

end

/-- All numbers in the value are integers of 64 bits. -/
inductive Whole : Json → Prop where
  | null : Whole .null
  | bool (value : Bool) : Whole (.bool value)
  | number {value : Number} (whole : value.Whole) : Whole (.number value)
  | string (value : String) : Whole (.string value)
  | array {items : List Json} (each : ∀ item ∈ items, Whole item) : Whole (.array items)
  | object {members : List (String × Json)} (each : ∀ member ∈ members, Whole member.2) :
      Whole (.object members)

namespace Token

/-! ### Texts and their tokens -/

/-- The text is empty or begins with something that continues no word and no number. -/
def Ends (text : List Char) : Prop :=
  ∀ char ∈ text.head?, isNumberChar char = false ∧ char.isLower = false

/-- The automaton gets these tokens from the text, whatever it found before. -/
def Reads (text : List Char) (tokens : List Token) : Prop :=
  ∀ found rest, Ends rest →
    run .between found (text ++ rest) = run .between (tokens.reverse ++ found) rest

theorem ends_cons {char : Char} {text : List Char}
    (ends : isNumberChar char = false ∧ char.isLower = false) : Ends (char :: text) := by
  intro first isFirst
  cases isFirst
  exact ends

theorem Ends.append {text rest : List Char} (ends : Ends text) (restEnds : Ends rest) :
    Ends (text ++ rest) := by
  cases text with
  | nil => exact restEnds
  | cons char text => exact ends_cons (ends char rfl)

theorem ends_of_isSpace {char : Char} (isSpace : isSpace char = true) :
    isNumberChar char = false ∧ char.isLower = false := by
  simp only [Token.isSpace, Bool.or_eq_true, beq_iff_eq] at isSpace
  rcases isSpace with ((rfl | rfl) | rfl) | rfl <;> decide

theorem Ends.blanks {blanks text : List Char} (each : ∀ char ∈ blanks, isSpace char = true)
    (ends : Ends text) : Ends (blanks ++ text) := by
  cases blanks with
  | nil => exact ends
  | cons blank blanks => exact ends_cons (ends_of_isSpace (each blank List.mem_cons_self))

section Parts

variable {char : Char} {text more : List Char} {tokens others : List Token}

theorem Reads.append (first : Reads text tokens) (ends : Ends more) (second : Reads more others) :
    Reads (text ++ more) (tokens ++ others) := by
  intro found rest restEnds
  rw [List.append_assoc, first _ _ (ends.append restEnds), second _ _ restEnds,
    List.reverse_append, List.append_assoc]

theorem Reads.mark {token : Token} (isMark : begin? char = some ([token], .between))
    (reads : Reads text tokens) : Reads (char :: text) (token :: tokens) := by
  intro found rest restEnds
  rw [List.cons_append, run, step, isMark, List.reverse_cons, List.append_assoc]
  exact reads _ _ restEnds

theorem Reads.blanks {blanks : List Char} (each : ∀ char ∈ blanks, isSpace char = true)
    (reads : Reads text tokens) : Reads (blanks ++ text) tokens := by
  induction blanks with
  | nil => exact reads
  | cons blank rest inductionHypothesis =>
      obtain ⟨isBlank, others⟩ := List.forall_mem_cons.mp each
      intro found after afterEnds
      have skipped : begin? blank = some ([], .between) := by rw [begin?, if_pos isBlank]
      rw [List.cons_append, List.cons_append, run, step, skipped]
      exact inductionHypothesis others found after afterEnds

end Parts

/-! ### Words and numbers -/

/-- A state that waits for the end of a token gives the token there, and what follows is read as
if nothing had been waiting. -/
theorem run_waiting {state : State} {token : Token} {rest : List Char} (found : List Token)
    (finished : finish? state = some [token])
    (ended : ∀ char ∈ rest.head?, step state char =
      (begin? char).map fun next => (next.1 ++ [token], next.2)) :
    run state found rest = run .between (token :: found) rest := by
  cases rest with
  | nil => rw [run, run, finished, finish?, Option.map_some, Option.map_some]; rfl
  | cons char rest =>
      rw [run, run, ended char rfl, step]
      cases begin? char with
      | none => rfl
      | some next => simp

theorem run_word_end {letters rest : List Char} {token : Token}
    (isWord : ofWord? letters.reverse = some token) (ends : Ends rest) (found : List Token) :
    run (.word letters) found rest = run .between (token :: found) rest := by
  refine run_waiting found (by rw [finish?, isWord, Option.map_some]) fun char isFirst => ?_
  rw [step, if_neg (by simp [(ends char isFirst).2]), isWord]
  cases begin? char <;> rfl

theorem run_number_end {digits rest : List Char} {token : Token}
    (isNumber : ofNumber? digits.reverse = some token) (ends : Ends rest) (found : List Token) :
    run (.number digits) found rest = run .between (token :: found) rest := by
  refine run_waiting found (by rw [finish?, isNumber, Option.map_some]) fun char isFirst => ?_
  rw [step, if_neg (by simp [(ends char isFirst).1]), isNumber]
  cases begin? char <;> rfl

theorem run_number {more : List Char} (each : ∀ char ∈ more, isNumberChar char = true)
    (digits rest : List Char) (found : List Token) :
    run (.number digits) found (more ++ rest) =
      run (.number (more.reverse ++ digits)) found rest := by
  induction more generalizing digits with
  | nil => rfl
  | cons char more inductionHypothesis =>
      obtain ⟨continues, others⟩ := List.forall_mem_cons.mp each
      rw [List.cons_append, run, step, if_pos continues, List.reverse_cons, List.append_assoc]
      exact inductionHypothesis others _

theorem reads_null : Reads ['n', 'u', 'l', 'l'] [.scalar .null] :=
  fun found rest ends => @run_word_end ['l', 'l', 'u', 'n'] rest _ rfl ends found

theorem reads_bool (value : Bool) : Reads (render (.bool value)) [.scalar (.bool value)] := by
  cases value with
  | true =>
      exact fun found rest ends => @run_word_end ['e', 'u', 'r', 't'] rest _ rfl ends found
  | false =>
      exact fun found rest ends => @run_word_end ['e', 's', 'l', 'a', 'f'] rest _ rfl ends found

/-- The characters that begin something else than a word or a number. -/
def marks : List Char :=
  [' ', '\t', '\n', '\x0d', '[', ']', '\x7b', '\x7d', ',', ':', '"']

theorem begin?_number {char : Char} (begins : char.isDigit = true ∨ char = '-') :
    begin? char = some ([], .number [char]) := by
  have apart : ∀ mark ∈ marks, char ≠ mark := by
    rintro mark isMark rfl
    have noStart : marks.all (fun mark => !mark.isDigit && mark != '-') = true := by decide
    have unfit := List.all_eq_true.mp noStart _ isMark
    rcases begins with isDigit | rfl
    · rw [isDigit] at unfit
      cases unfit
    · cases unfit
  simp only [marks, List.forall_mem_cons, List.not_mem_nil, false_imp_iff, implies_true,
    and_true] at apart
  simp [begin?, isSpace, apart, begins]

theorem reads_number {number : Number} (whole : number.Whole) :
    Reads number.render.toList [.scalar (.number number)] := by
  obtain ⟨first, others, written, begins, continues⟩ := Number.render_begins whole
  have isNumber := Number.ofNumber?_render whole
  rw [written] at isNumber ⊢
  intro found rest ends
  rw [List.cons_append, run, step, begin?_number begins]
  change run (.number [first]) found (others ++ rest) = _
  rw [run_number continues, run_number_end (by simpa using isNumber) ends]
  rfl

/-! ### Strings -/

theorem hexValue?_hexDigit {value : Nat} (small : value < 16) :
    Text.Ascii.hexValue? (Text.Ascii.hexDigit value).toNat = some value := by
  have each : ∀ value < 16,
      Text.Ascii.hexValue? (Text.Ascii.hexDigit value).toNat = some value := by decide
  exact each value small

/-- A character that is written with its code is read back from it. -/
theorem run_code {char : Char} (control : char.toNat < 0x20) (read rest : List Char)
    (found : List Token) :
    run (.text (some read)) found ('\\' :: 'u' :: '0' :: '0' ::
        Text.Ascii.hexDigit (char.toNat / 16) :: Text.Ascii.hexDigit (char.toNat % 16) :: rest) =
      run (.text (some (char :: read))) found rest := by
  have high := hexValue?_hexDigit (show char.toNat / 16 < 16 by omega)
  have low := hexValue?_hexDigit (show char.toNat % 16 < 16 by omega)
  have joined : (0 * 16 + char.toNat / 16) * 16 + char.toNat % 16 = char.toNat := by omega
  have unpaired : ofCode (some read) none char.toNat = .text (some (char :: read)) := by
    rw [ofCode, if_neg (by omega), if_neg (by omega), Char.ofNat_toNat]
    rfl
  have third : step (.code (some read) none 2 0) (Text.Ascii.hexDigit (char.toNat / 16)) =
      some ([], .code (some read) none 3 (0 * 16 + char.toNat / 16)) := by
    rw [step, high]
    rfl
  have fourth : step (.code (some read) none 3 (0 * 16 + char.toNat / 16))
      (Text.Ascii.hexDigit (char.toNat % 16)) = some ([], .text (some (char :: read))) := by
    rw [step, low]
    change some ([], ofCode _ none ((0 * 16 + char.toNat / 16) * 16 + char.toNat % 16)) = _
    rw [joined, unpaired]
  change run (.code (some read) none 2 0) found
    (Text.Ascii.hexDigit (char.toNat / 16) :: Text.Ascii.hexDigit (char.toNat % 16) :: rest) = _
  rw [run, third]
  change run (.code _ none 3 _) found (Text.Ascii.hexDigit (char.toNat % 16) :: rest) = _
  rw [run, fourth]
  rfl

theorem run_escapeChar (char : Char) (read rest : List Char) (found : List Token) :
    run (.text (some read)) found (escapeChar char ++ rest) =
      run (.text (some (char :: read))) found rest := by
  unfold escapeChar
  split_ifs with quote slash back feed line carriage tab control
  · subst quote; rfl
  · subst slash; rfl
  · subst back; rfl
  · subst feed; rfl
  · subst line; rfl
  · subst carriage; rfl
  · subst tab; rfl
  · exact run_code control read rest found
  · have plain : inText? (some read) char = some ([], .text (some (char :: read))) := by
      rw [inText?, if_neg quote, if_neg slash, if_neg control]
      rfl
    rw [List.singleton_append, run, step, plain]
    rfl

theorem run_escaped (chars read rest : List Char) (found : List Token) :
    run (.text (some read)) found (chars.flatMap escapeChar ++ rest) =
      run (.text (some (chars.reverse ++ read))) found rest := by
  induction chars generalizing read with
  | nil => rfl
  | cons char chars inductionHypothesis =>
      rw [List.flatMap_cons, List.append_assoc, run_escapeChar, inductionHypothesis,
        List.reverse_cons, List.append_assoc, List.singleton_append]

theorem reads_string (value : String) : Reads (renderString value) [.string value] := by
  intro found rest _
  change run (.text (some [])) found (value.toList.flatMap escapeChar ++ ['"'] ++ rest) = _
  rw [List.append_assoc, run_escaped, List.append_nil]
  change run .between (.string (String.ofList value.toList.reverse.reverse) :: found) rest = _
  rw [List.reverse_reverse, String.ofList_toList]
  rfl

end Token

/-! ### Values -/

open Token

theorem reads_nil : Reads [] [] := fun _ _ _ => rfl

/-- A way of writing values. It puts blanks in front of items and members and of closing
brackets, as the depth asks for, and after colons. -/
structure Printer where
  value : Nat → Json → List Char
  items : Nat → List Json → List Char
  members : Nat → List (String × Json) → List Char
  lead : Nat → List Char
  close : Nat → List Char
  gap : List Char
  isSpace_lead : ∀ depth, ∀ char ∈ lead depth, isSpace char = true
  isSpace_close : ∀ depth, ∀ char ∈ close depth, isSpace char = true
  isSpace_gap : ∀ char ∈ gap, isSpace char = true
  value_scalar : ∀ depth written, (∀ item rest, written ≠ .array (item :: rest)) →
    (∀ member rest, written ≠ .object (member :: rest)) → value depth written = render written
  value_array : ∀ depth item rest, value depth (.array (item :: rest)) =
    '[' :: (lead depth ++ (value (depth + 1) item ++ items depth rest))
  value_object : ∀ depth name first rest, value depth (.object ((name, first) :: rest)) =
    '\x7b' :: (lead depth ++ (renderString name ++
      ':' :: (gap ++ (value (depth + 1) first ++ members depth rest))))
  items_nil : ∀ depth, items depth [] = close depth ++ [']']
  items_cons : ∀ depth item rest, items depth (item :: rest) =
    ',' :: (lead depth ++ (value (depth + 1) item ++ items depth rest))
  members_nil : ∀ depth, members depth [] = close depth ++ ['\x7d']
  members_cons : ∀ depth name next rest, members depth ((name, next) :: rest) =
    ',' :: (lead depth ++ (renderString name ++
      ':' :: (gap ++ (value (depth + 1) next ++ members depth rest))))

namespace Printer

/-- Everything on one line. -/
def oneLine : Printer where
  value _ := render
  items _ := renderItems
  members _ := renderMembers
  lead _ := []
  close _ := []
  gap := []
  isSpace_lead _ := List.forall_mem_nil _
  isSpace_close _ := List.forall_mem_nil _
  isSpace_gap := List.forall_mem_nil _
  value_scalar _ _ _ _ := rfl
  value_array _ _ _ := rfl
  value_object _ _ _ _ := rfl
  items_nil _ := rfl
  items_cons _ _ _ := rfl
  members_nil _ := rfl
  members_cons _ _ _ _ := rfl

theorem isSpace_newLine (depth : Nat) : ∀ char ∈ newLine depth, isSpace char = true := by
  refine List.forall_mem_cons.mpr ⟨by decide, fun char member => ?_⟩
  rw [List.eq_of_mem_replicate member]
  decide

/-- Each item and member on a line of its own. -/
def manyLines : Printer where
  value := renderLines
  items := itemLines
  members := memberLines
  lead depth := newLine (depth + 1)
  close := newLine
  gap := [' ']
  isSpace_lead depth := isSpace_newLine (depth + 1)
  isSpace_close := isSpace_newLine
  isSpace_gap := List.forall_mem_singleton.mpr rfl
  value_scalar depth written noItem noMember := by
    match written with
    | .null | .bool true | .bool false | .number _ | .string _ | .array [] | .object [] => rfl
    | .array (item :: rest) => exact absurd rfl (noItem item rest)
    | .object (member :: rest) => exact absurd rfl (noMember member rest)
  value_array _ _ _ := by rw [renderLines, List.append_assoc]
  value_object _ _ _ _ := by simp [renderLines]
  items_nil _ := rfl
  items_cons _ _ _ := by rw [itemLines, List.append_assoc]
  members_nil _ := rfl
  members_cons _ _ _ _ := by simp [memberLines]

variable (printer : Printer) {depth : Nat}

theorem ends_items (items : List Json) : Ends (printer.items depth items) := by
  cases items with
  | nil =>
      rw [printer.items_nil]
      exact .blanks (printer.isSpace_close depth) (ends_cons (by decide))
  | cons item rest =>
      rw [printer.items_cons]
      exact ends_cons (by decide)

theorem ends_members (members : List (String × Json)) : Ends (printer.members depth members) := by
  cases members with
  | nil =>
      rw [printer.members_nil]
      exact .blanks (printer.isSpace_close depth) (ends_cons (by decide))
  | cons member rest =>
      rw [printer.members_cons]
      exact ends_cons (by decide)

section Parts

variable {text : List Char} {tokens : List Token}

theorem reads_item {written : List Char} {itemTokens : List Token} (item : Reads written itemTokens)
    (ends : Ends text) (reads : Reads text tokens) :
    Reads (printer.lead depth ++ (written ++ text)) (itemTokens ++ tokens) :=
  .blanks (printer.isSpace_lead depth) (item.append ends reads)

theorem reads_member (name : String) {written : List Char} {valueTokens : List Token}
    (value : Reads written valueTokens) (ends : Ends text) (reads : Reads text tokens) :
    Reads (printer.lead depth ++ (renderString name ++ ':' :: (printer.gap ++ (written ++ text))))
      (.string name :: .colon :: (valueTokens ++ tokens)) := by
  have behind := Reads.blanks printer.isSpace_gap (value.append ends reads)
  exact .blanks (printer.isSpace_lead depth)
    ((reads_string name).append (ends_cons (by decide)) (.mark rfl behind))

end Parts

theorem reads_items {items : List Json}
    (each : ∀ item ∈ items, Reads (printer.value (depth + 1) item) (tokens item)) :
    Reads (printer.items depth items) (itemTokens items) := by
  induction items with
  | nil =>
      rw [printer.items_nil]
      exact .blanks (printer.isSpace_close depth) (.mark rfl reads_nil)
  | cons item rest inductionHypothesis =>
      obtain ⟨first, others⟩ := List.forall_mem_cons.mp each
      rw [printer.items_cons]
      exact .mark rfl
        (printer.reads_item first (printer.ends_items rest) (inductionHypothesis others))

theorem reads_members {members : List (String × Json)}
    (each : ∀ member ∈ members, Reads (printer.value (depth + 1) member.2) (tokens member.2)) :
    Reads (printer.members depth members) (memberTokens members) := by
  induction members with
  | nil =>
      rw [printer.members_nil]
      exact .blanks (printer.isSpace_close depth) (.mark rfl reads_nil)
  | cons member rest inductionHypothesis =>
      obtain ⟨first, others⟩ := List.forall_mem_cons.mp each
      rw [printer.members_cons]
      exact .mark rfl
        (printer.reads_member member.1 first (printer.ends_members rest) (inductionHypothesis others))

/-- What is written for a value consists of the tokens of the value. -/
theorem reads_value {value : Json} (whole : Whole value) (depth : Nat) :
    Reads (printer.value depth value) (tokens value) := by
  -- Inner values are written one level deeper, so the depth varies.
  induction whole generalizing depth with
  | null =>
      rw [printer.value_scalar depth .null (by simp) (by simp)]
      exact reads_null
  | bool value =>
      rw [printer.value_scalar depth (.bool value) (by simp) (by simp)]
      exact reads_bool value
  | number whole =>
      rw [printer.value_scalar depth (.number _) (by simp) (by simp)]
      exact reads_number whole
  | string value =>
      rw [printer.value_scalar depth (.string value) (by simp) (by simp)]
      exact reads_string value
  | @array items each inductionHypothesis =>
      cases items with
      | nil =>
          rw [printer.value_scalar depth (.array []) (by simp) (by simp)]
          exact .mark rfl (.mark rfl reads_nil)
      | cons item rest =>
          obtain ⟨first, others⟩ := List.forall_mem_cons.mp fun item isItem =>
            @inductionHypothesis item isItem (depth + 1)
          rw [printer.value_array]
          exact .mark rfl
            (printer.reads_item first (printer.ends_items rest) (printer.reads_items others))
  | @object members each inductionHypothesis =>
      cases members with
      | nil =>
          rw [printer.value_scalar depth (.object []) (by simp) (by simp)]
          exact .mark rfl (.mark rfl reads_nil)
      | cons member rest =>
          obtain ⟨first, others⟩ := List.forall_mem_cons.mp fun member isMember =>
            @inductionHypothesis member isMember (depth + 1)
          rw [printer.value_object]
          exact .mark rfl (printer.reads_member member.1 first (printer.ends_members rest)
            (printer.reads_members others))

end Printer

/-- A text that gives tokens wherever it stands gives them alone, too. -/
theorem Token.Reads.ofText? {text : List Char} {tokens : List Token} (reads : Reads text tokens) :
    Token.ofText? text = some tokens := by
  have alone := reads [] [] (by simp [Ends])
  rw [List.append_nil, List.append_nil] at alone
  rw [Token.ofText?, alone, run, finish?, Option.map_some, List.nil_append, List.reverse_reverse]

end CallPolicy.Json
