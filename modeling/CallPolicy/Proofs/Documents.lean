import CallPolicy.Document.Read
import CallPolicy.Json.Printer
import CallPolicy.Proofs.Installed

/-!
Contract: what becomes of the methods that a JSON document declares.

Owns:
- the parts of a document that stand where a record, a list or a map is read;
- how the entries of both lists are read from a document, rule by rule;
- that methods which differ only in the case of their names are refused, and which
  constraint is kept where one name is repeated.

Does not own: documents in other formats.

## Two kinds of repetition

A document is a tree that keeps every member of its objects. The methods of a rule are read
into a map, where a name that is given twice is left with its last constraint. The check for
repetitions comes after that. It sees two names that differ in case, since the map holds both,
and it cannot see a name that was given twice.
-/

namespace CallPolicy

namespace Document

/-! ### Lists and maps -/

section Parts

variable {node β : Type}

/-- What the item of a list at some index is read as stands at that index. -/
theorem exists_read_of_list? {read : Json → Option β} {items : List Json} {values : List β}
    (isRead : list? read (.array items) = some values) {index : Nat} {item : Json}
    (isItem : items[index]? = some item) :
    ∃ value, values[index]? = some value ∧ read item = some value := by
  have each := Checks.mapM_eq_some_iff.mp isRead
  obtain ⟨bound, rfl⟩ := List.getElem?_eq_some_iff.mp isItem
  have valueBound : index < values.length := each.length_eq ▸ bound
  exact ⟨values[index], List.getElem?_eq_getElem valueBound, each.get bound valueBound⟩

/-- The members of an object, one by one, with what they are read as. -/
def MembersRead (read : node → Option β) (members : List (String × node))
    (entries : List (String × β)) : Prop :=
  List.Forall₂ (fun member entry => ((read member.2).map fun value => (member.1, value)) =
    some entry) members entries

section Members

variable {read : node → Option β} {members : List (String × node)} {entries : List (String × β)}

theorem MembersRead.names (each : MembersRead read members entries) :
    entries.map Prod.fst = members.map Prod.fst := by
  induction each with
  | nil => rfl
  | cons isEntry _ inductionHypothesis =>
      obtain ⟨value, _, rfl⟩ := Option.map_eq_some_iff.mp isEntry
      rw [List.map_cons, List.map_cons, inductionHypothesis]

theorem MembersRead.lookup (each : MembersRead read members entries) (name : String) :
    lookupEntry name entries = (lookupEntry name members).bind read := by
  induction each with
  | nil => rfl
  | cons isEntry _ inductionHypothesis =>
      obtain ⟨value, isValue, rfl⟩ := Option.map_eq_some_iff.mp isEntry
      rw [lookupEntry_cons, lookupEntry_cons, inductionHypothesis]
      split
      · rw [Option.bind_some, isValue]
      · rfl

end Members

theorem map?_eq_some_iff {read : Json → Option β} {members : List (String × Json)}
    {map : Keyed β} :
    map? read (.object members) = some map ↔
      ∃ entries, MembersRead read members entries ∧ Keyed.ofList entries = map := by
  simp [map?, MembersRead, Node.members?, Option.bind_eq_some_iff, Checks.mapM_eq_some_iff]

section Maps

variable {read : Json → Option β} {members : List (String × Json)} {map : Keyed β}

/-- A map that is read from an object holds under each name what the last member of that name
is read as. -/
theorem get?_of_map? (isRead : map? read (.object members) = some map) (name : String) :
    map.get? name = (lookupEntry name members.reverse).bind read := by
  obtain ⟨entries, each, rfl⟩ := map?_eq_some_iff.mp isRead
  -- Of several entries with one name the map keeps the last, which a look-up from the end finds.
  have backwards : MembersRead read members.reverse entries.reverse :=
    List.forall₂_reverse_iff.mpr each
  rw [Keyed.get?_ofList, backwards.lookup]

theorem mem_names_of_map? (isRead : map? read (.object members) = some map) (name : String) :
    name ∈ map.entries.map Prod.fst ↔ name ∈ members.map Prod.fst := by
  obtain ⟨entries, each, rfl⟩ := map?_eq_some_iff.mp isRead
  calc name ∈ (Keyed.ofList entries).entries.map Prod.fst
      ↔ ((Keyed.ofList entries).get? name).isSome = true := isSome_lookupEntry_iff.symm
    _ ↔ name ∈ entries.reverse.map Prod.fst := by
        rw [Keyed.get?_ofList]
        exact isSome_lookupEntry_iff
    _ ↔ name ∈ members.map Prod.fst := by rw [List.map_reverse, List.mem_reverse, each.names]

end Maps

end Parts

/-! ### Records -/

/-- What a record gives for one of its fields: a member of an object that has its name, or
the value at its place in a list of values. -/
inductive Gives (names : List String) (name : String) : Json → Json → Prop
  | named {members : List (String × Json)} {value : Json} (isMember : (name, value) ∈ members) :
      Gives names name (.object members) value
  | placed {items : List Json} {value : Json} {place : Nat} (isField : names[place]? = some name)
      (isItem : items[place]? = some value) : Gives names name (.array items) value

theorem names_nodup_of_fitsFields {names given : List String}
    (fits : fitsFields names given = true) : given.Nodup := by
  induction given with
  | nil => exact List.nodup_nil
  | cons name rest inductionHypothesis =>
      simp only [fitsFields, Bool.and_eq_true, Bool.not_eq_true'] at fits
      obtain ⟨⟨_, unrepeated⟩, restFits⟩ := fits
      exact List.nodup_cons.mpr ⟨by simpa using unrepeated, inductionHypothesis restFits⟩

theorem fieldsOfMembers_eq_some_iff {names : List String} {members : List (String × Json)}
    {fields : List (Option Json)} :
    fieldsOfMembers names members = some fields ↔
      fitsFields names (members.map Prod.fst) = true ∧
        (names.map fun name => lookupEntry name members) = fields := by
  rw [fieldsOfMembers, Option.ite_none_right_eq_some, Option.some.injEq]

theorem fieldsOfItems_eq_some_iff {names : List String} {items : List Json}
    {fields : List (Option Json)} :
    fieldsOfItems names items = some fields ↔
      items.length ≤ names.length ∧
        items.map some ++ List.replicate (names.length - items.length) none = fields := by
  rw [fieldsOfItems, Option.ite_none_right_eq_some, Option.some.injEq]

/-- A record that is read has what it gives for a field at the place of the field. -/
theorem field_of_gives {names : List String} (distinct : names.Nodup) {name : String}
    {record value : Json} (gives : Gives names name record value) {fields : List (Option Json)}
    (isRead : Node.fields? names record = some fields) {place : Nat}
    (isField : names[place]? = some name) : fields[place]? = some (some value) := by
  cases gives with
  | @named members _ isMember =>
      obtain ⟨fits, rfl⟩ := fieldsOfMembers_eq_some_iff.mp isRead
      have found : lookupEntry name members = some value :=
        (lookupEntry_eq_some_iff (names_nodup_of_fitsFields fits)).mpr isMember
      rw [List.getElem?_map, isField, Option.map_some, found]
  | @placed items _ there isThere isItem =>
      -- A name stands at one place only, so the item that is given is the one of the field.
      obtain ⟨_, rfl⟩ := fieldsOfItems_eq_some_iff.mp isRead
      obtain ⟨bound, _⟩ := List.getElem?_eq_some_iff.mp isField
      obtain rfl : place = there := (List.getElem?_inj bound distinct).mp (isField.trans isThere.symm)
      obtain ⟨itemBound, _⟩ := List.getElem?_eq_some_iff.mp isItem
      rw [List.getElem?_append_left (by simpa using itemBound), List.getElem?_map, isItem,
        Option.map_some]

theorem length_of_fields? {names : List String} {record : Json} {fields : List (Option Json)}
    (isRead : Node.fields? names record = some fields) : fields.length = names.length := by
  cases record with
  | object members =>
      obtain ⟨_, rfl⟩ := fieldsOfMembers_eq_some_iff.mp isRead
      exact List.length_map _
  | array items =>
      obtain ⟨fewer, rfl⟩ := fieldsOfItems_eq_some_iff.mp isRead
      rw [List.length_append, List.length_map, List.length_replicate]
      omega
  | _ => cases isRead

/-- A record of two fields is read from what it gives for the second one. -/
theorem second_of_record {α β γ : Type} {first second : String} (different : first ≠ second)
    {readFirst : Option Json → Option α} {readSecond : Option Json → Option β}
    {make : α → β → γ} {pick : List (Option Json) → Option γ}
    (picks : ∀ one other, pick [one, other] =
      (readFirst one).bind fun left => (readSecond other).bind fun right => some (make left right))
    {record value : Json} {result : γ}
    (isRead : (Node.fields? [first, second] record >>= pick) = some result)
    (gives : Gives [first, second] second record value) :
    ∃ left right, readSecond (some value) = some right ∧ make left right = result := by
  obtain ⟨fields, fieldsRead, isPicked⟩ := Option.bind_eq_some_iff.mp isRead
  have given : fields[1]? = some (some value) :=
    field_of_gives (by simpa using different) gives fieldsRead rfl
  obtain ⟨one, other, rfl⟩ := List.length_eq_two.mp (length_of_fields? fieldsRead)
  obtain rfl : other = some value := Option.some.inj given
  rw [picks, Option.bind_eq_some_iff] at isPicked
  obtain ⟨left, _, isPicked⟩ := isPicked
  obtain ⟨right, rightRead, isPicked⟩ := Option.bind_eq_some_iff.mp isPicked
  exact ⟨left, right, rightRead, Option.some.inj isPicked⟩

theorem methods_of_rule? {record value : Json} {rule : Rule} (isRead : rule? record = some rule)
    (gives : Gives ["path", "methods"] "methods" record value) :
    map? constraint? value = some rule.methods := by
  obtain ⟨path, methods, methodsRead, rfl⟩ :=
    second_of_record (by decide) (fun _ _ => rfl) isRead gives
  exact methodsRead

/-! ### Entries -/

/-- How one of the two lists is read and checked. What stands for the callers of an entry and
for the rules of a caller is read as a list, and a list that is built has no caller with a
repetition among its rules. -/
structure Reading (Entry Caller Built : Type) where
  callerFields : List String
  entry? : Json → Option Entry
  caller? : Json → Option Caller
  callers : Entry → List Caller
  rules : Caller → List Rule
  read : String → Except PolicyError (List Entry)
  build : Registry → List Entry → Except PolicyError Built
  callers_read : ∀ {record value : Json} {entry : Entry}, entry? record = some entry →
    Gives ["integration", "callers"] "callers" record value →
      list? caller? value = some (callers entry)
  rules_read : ∀ {record value : Json} {caller : Caller}, caller? record = some caller →
    Gives callerFields "rules" record value → list? rule? value = some (rules caller)
  read_eq_ok_iff : ∀ {content : String} {document : Json} {entries : List Entry},
    Json.parse? content.toList = some document →
      (read content = .ok entries ↔ list? entry? document = some entries)
  distinct_of_build : ∀ {registry : Registry} {entries : List Entry} {built : Built},
    build registry entries = .ok built → ∀ entry ∈ entries, ∀ caller ∈ callers entry,
      ((rules caller).flatMap Rule.pairs).Nodup

theorem read_json_eq_ok_iff {β : Type} (entries? : {node : Type} → [Node node] → node → Option β)
    {content : String} {document : Json} (parsed : Json.parse? content.toList = some document)
    {entries : β} :
    read .json entries? content = .ok entries ↔ entries? document = some entries := by
  rw [read]
  simp only [parsed, Option.bind_some]
  cases entries? document <;> simp

namespace Reading

/-- Allowlists. -/
def allowed : Reading AllowEntry AllowCaller Allowlist where
  callerFields := ["id", "capabilities", "rules"]
  entry? := allowEntry?
  caller? := allowCaller?
  callers := AllowEntry.callers
  rules := AllowCaller.rules
  read := readAllowlist .json
  build := Allowlist.build
  callers_read isRead gives := by
    obtain ⟨_, _, callersRead, rfl⟩ :=
      second_of_record (by decide) (fun _ _ => rfl) isRead gives
    exact callersRead
  rules_read isRead gives := by
    obtain ⟨fields, fieldsRead, isCaller⟩ := Option.bind_eq_some_iff.mp isRead
    have given := field_of_gives (by decide) gives fieldsRead (show _[2]? = some "rules" from rfl)
    split at isCaller
    · obtain rfl := Option.some.inj given
      simp only [Option.bind_eq_bind, Option.bind_eq_some_iff, optionalField] at isCaller
      obtain ⟨_, _, _, _, rules, rulesRead, isCaller⟩ := isCaller
      obtain rfl := Option.some.inj isCaller
      exact rulesRead
    · cases isCaller
  read_eq_ok_iff parsed := read_json_eq_ok_iff (list? allowEntry?) parsed
  distinct_of_build built entry isEntry caller isCaller :=
    ((Allowlist.build_eq_ok_iff.mp built).1.each entry isEntry).ownDistinct caller isCaller

/-- Denylists. -/
def denied : Reading DenyEntry DenyCaller Denylist where
  callerFields := ["id", "rules"]
  entry? := denyEntry?
  caller? := denyCaller?
  callers := DenyEntry.callers
  rules := DenyCaller.rules
  read := readDenylist .json
  build _ := Denylist.build
  callers_read isRead gives := by
    obtain ⟨_, _, callersRead, rfl⟩ :=
      second_of_record (by decide) (fun _ _ => rfl) isRead gives
    exact callersRead
  rules_read isRead gives := by
    obtain ⟨_, _, rulesRead, rfl⟩ :=
      second_of_record (by decide) (fun _ _ => rfl) isRead gives
    exact rulesRead
  read_eq_ok_iff parsed := read_json_eq_ok_iff (list? denyEntry?) parsed
  distinct_of_build built entry isEntry caller isCaller :=
    ((Denylist.build_eq_ok_iff.mp built).1.each entry isEntry).ownDistinct caller isCaller

end Reading

/-! ### Rules in documents -/

/-- Where a rule stands: the index of its entry, that of its caller in the entry, and its own
index among the rules of the caller. -/
structure RulePlace where
  entry : Nat
  caller : Nat
  rule : Nat

/-- A document has an object with certain members as the methods of the rule at a place. -/
inductive MethodsAt (callerFields : List String) (place : RulePlace)
    (members : List (String × Json)) : Json → Prop
  | intro {entries callers rules : List Json} {entry caller rule : Json}
      (isEntry : entries[place.entry]? = some entry)
      (givesCallers : Gives ["integration", "callers"] "callers" entry (.array callers))
      (isCaller : callers[place.caller]? = some caller)
      (givesRules : Gives callerFields "rules" caller (.array rules))
      (isRule : rules[place.rule]? = some rule)
      (givesMethods : Gives ["path", "methods"] "methods" rule (.object members)) :
      MethodsAt callerFields place members (.array entries)

/-- Some name is written in two ways that differ only in case. -/
def Respelled (members : List (String × Json)) : Prop :=
  ∃ first ∈ members.map Prod.fst, ∃ second ∈ members.map Prod.fst,
    first ≠ second ∧ Text.Ascii.upper first = Text.Ascii.upper second

/-- A rule has the methods that an object gives: each name with the constraint of its last
member. -/
def HasMethods (rule : Rule) (members : List (String × Json)) : Prop :=
  ∀ name, rule.methods.get? name = (lookupEntry name members.reverse).bind constraint?

/-- Methods that are read are distinct up to case unless a name was written in two ways. A
name that was repeated as it is leaves no trace. -/
theorem methodsDistinct_iff_of_map? {members : List (String × Json)} {rule : Rule}
    (isRead : map? constraint? (Json.object members) = some rule.methods) :
    rule.MethodsDistinct ↔ ¬ Respelled members := by
  have asNames : (rule.methods.entries.map fun entry => Text.Ascii.upper entry.1) =
      (rule.methods.entries.map Prod.fst).map Text.Ascii.upper := by
    rw [List.map_map]
    rfl
  rw [Rule.MethodsDistinct, asNames, List.nodup_map_iff_inj_on rule.methods.keys_nodup]
  simp only [mem_names_of_map? isRead]
  constructor
  · rintro apart ⟨first, isFirst, second, isSecond, different, sameUpper⟩
    exact different (apart first isFirst second isSecond sameUpper)
  · intro unspelled first isFirst second isSecond sameUpper
    by_contra different
    exact unspelled ⟨first, isFirst, second, isSecond, different, sameUpper⟩

namespace Reading

variable {Entry Caller Built : Type} (reading : Reading Entry Caller Built)

/-- The rule that is read at a place. -/
def ruleAt? (entries : List Entry) (place : RulePlace) : Option Rule := do
  let entry ← entries[place.entry]?
  let caller ← (reading.callers entry)[place.caller]?
  (reading.rules caller)[place.rule]?

/-- The rule at a place of what is read has the methods that stand there in the document. -/
theorem exists_ruleAt? {document : Json} {entries : List Entry}
    (isRead : list? reading.entry? document = some entries) {place : RulePlace}
    {members : List (String × Json)}
    (methodsAt : MethodsAt reading.callerFields place members document) :
    ∃ rule, reading.ruleAt? entries place = some rule ∧
      map? constraint? (Json.object members) = some rule.methods := by
  obtain ⟨isEntry, givesCallers, isCaller, givesRules, isRule, givesMethods⟩ := methodsAt
  obtain ⟨entry, atEntry, entryRead⟩ := exists_read_of_list? isRead isEntry
  have callersRead := reading.callers_read entryRead givesCallers
  obtain ⟨caller, atCaller, callerRead⟩ := exists_read_of_list? callersRead isCaller
  have rulesRead := reading.rules_read callerRead givesRules
  obtain ⟨rule, atRule, ruleRead⟩ := exists_read_of_list? rulesRead isRule
  refine ⟨rule, ?_, methods_of_rule? ruleRead givesMethods⟩
  simp only [ruleAt?, Option.bind_eq_bind, atEntry, Option.bind_some, atCaller, atRule]

/-- No rule of a list that is built has two methods that are equal up to case. -/
theorem methodsDistinct_of_build {registry : Registry} {entries : List Entry} {built : Built}
    (isBuilt : reading.build registry entries = .ok built) {place : RulePlace} {rule : Rule}
    (atPlace : reading.ruleAt? entries place = some rule) : rule.MethodsDistinct := by
  obtain ⟨entry, isEntry, atPlace⟩ := Option.bind_eq_some_iff.mp atPlace
  obtain ⟨caller, isCaller, isRule⟩ := Option.bind_eq_some_iff.mp atPlace
  have distinct := reading.distinct_of_build isBuilt entry (List.mem_of_getElem? isEntry) caller
    (List.mem_of_getElem? isCaller)
  exact Rule.methodsDistinct_of_mem distinct (List.mem_of_getElem? isRule)

/-- What becomes of the methods in a document. If a rule has a name in two spellings that
differ in case, the document is answered with an error. In a document that is read, the rule
at each place has the constraint of the last member for each name, and its methods are told
apart unless a name is in two spellings. -/
structure Treats (registry : Registry) (content : String) (document : Json) : Prop where
  refused : ∀ place members, MethodsAt reading.callerFields place members document →
    Respelled members → ∃ error, (reading.read content >>= reading.build registry) = .error error
  kept : ∀ place members, MethodsAt reading.callerFields place members document →
    ∀ entries, reading.read content = .ok entries →
      ∃ rule, reading.ruleAt? entries place = some rule ∧ HasMethods rule members ∧
        (rule.MethodsDistinct ↔ ¬ Respelled members)

theorem treats (registry : Registry) {content : String} {document : Json}
    (parsed : Json.parse? content.toList = some document) :
    reading.Treats registry content document := by
  refine ⟨fun place members methodsAt respelled => ?_, fun place members methodsAt entries isRead =>
    ?_⟩
  · cases outcome : reading.read content >>= reading.build registry with
    | error error => exact ⟨error, rfl⟩
    | ok built =>
        -- Both spellings are names of the map that is read, so the check has seen them both.
        obtain ⟨entries, isRead, isBuilt⟩ := Checks.bind_eq_ok_iff.mp outcome
        obtain ⟨rule, atPlace, methodsRead⟩ :=
          reading.exists_ruleAt? ((reading.read_eq_ok_iff parsed).mp isRead) methodsAt
        have distinct := reading.methodsDistinct_of_build isBuilt atPlace
        exact absurd respelled ((methodsDistinct_iff_of_map? methodsRead).mp distinct)
  · obtain ⟨rule, atPlace, methodsRead⟩ :=
      reading.exists_ruleAt? ((reading.read_eq_ok_iff parsed).mp isRead) methodsAt
    exact ⟨rule, atPlace, get?_of_map? methodsRead, methodsDistinct_iff_of_map? methodsRead⟩

end Reading

/-- Neither list is read from a JSON document in which a rule has a method in two spellings
that differ in case and then built. A method that is repeated in one spelling is not refused:
its last constraint is kept. -/
theorem respelled_refused_repeated_kept {content : String} {document : Json}
    (parsed : Json.parse? content.toList = some document) (registry : Registry) :
    Reading.allowed.Treats registry content document ∧
      Reading.denied.Treats registry content document :=
  ⟨Reading.allowed.treats registry parsed, Reading.denied.treats registry parsed⟩

namespace RepeatedSample

/-- Two methods of one rule, of which the first asks for a header. -/
def members (first second : String) : List (String × Json) :=
  [(first, .object [("headers", .object [("x-team", .array [.string "ops"])])]),
    (second, .object [])]

/-- A document of either list with these methods. -/
def document (first second : String) : Json :=
  .array [.object [("integration", .string "github"), ("callers", .array [
    .object [("id", .string "ci"), ("rules", .array [
      .object [("path", .string "/repos"), ("methods", .object (members first second))]])]])]]

/-- The text of such a document. -/
def text (first second : String) : String :=
  String.ofList (document first second).render

theorem methodsAt (callerFields : List String) (first second : String) :
    MethodsAt callerFields ⟨0, 0, 0⟩ (members first second) (document first second) :=
  .intro rfl (.named (.tail _ (.head _))) rfl (.named (.tail _ (.head _))) rfl
    (.named (.tail _ (.head _)))

theorem respelled_parsed :
    Json.parse? (text "GET" "get").toList = some (document "GET" "get") := by
  rw [text, String.toList_ofList]
  decide +kernel

theorem repeated_parsed :
    Json.parse? (text "GET" "GET").toList = some (document "GET" "GET") := by
  rw [text, String.toList_ofList]
  decide +kernel

/-- The rule that is read where one method is given twice. -/
def rule : Rule := (Rule.onPath "/repos").withMethod "GET" .unrestricted

/-- What is read as an allowlist. -/
def allowed : List AllowEntry := [⟨"github", [⟨"ci", [], [rule]⟩]⟩]

/-- What is read as a denylist. -/
def denied : List DenyEntry := [⟨"github", [⟨"ci", [rule]⟩]⟩]

theorem read_allowed : readAllowlist .json (text "GET" "GET") = .ok allowed := by
  rw [readAllowlist, read_json_eq_ok_iff (list? allowEntry?) repeated_parsed]
  decide +kernel

theorem read_denied : readDenylist .json (text "GET" "GET") = .ok denied := by
  rw [readDenylist, read_json_eq_ok_iff (list? denyEntry?) repeated_parsed]
  decide +kernel

end RepeatedSample

open RepeatedSample in
theorem respelled_refused_repeated_kept_sample :
    (∃ error, (Reading.allowed.read (text "GET" "get") >>= Reading.allowed.build Registry.empty) =
        .error error) ∧
      (∃ error, (Reading.denied.read (text "GET" "get") >>= Reading.denied.build Registry.empty) =
        .error error) ∧
      ∀ entries, Reading.allowed.read (text "GET" "GET") = .ok entries →
        ∃ rule, Reading.allowed.ruleAt? entries ⟨0, 0, 0⟩ = some rule ∧
          rule.methods.get? "GET" = some .unrestricted := by
  have respelled : Respelled (members "GET" "get") :=
    ⟨"GET", by decide, "get", by decide, by decide, by decide⟩
  obtain ⟨allowed, denied⟩ := respelled_refused_repeated_kept respelled_parsed Registry.empty
  refine ⟨allowed.refused _ _ (methodsAt _ _ _) respelled,
    denied.refused _ _ (methodsAt _ _ _) respelled, fun entries isRead => ?_⟩
  obtain ⟨repeatedAllowed, _⟩ := respelled_refused_repeated_kept repeated_parsed Registry.empty
  obtain ⟨rule, atPlace, has, _⟩ := repeatedAllowed.kept _ _ (methodsAt _ _ _) entries isRead
  exact ⟨rule, atPlace, (has "GET").trans (by decide +kernel)⟩

open RepeatedSample in
/-- A document with one method given twice is read and built in both lists, and nothing is
left of the header that its first constraint asks for. -/
theorem repeated_method_accepted :
    Json.parse? (text "GET" "GET").toList = some (document "GET" "GET") ∧
      (∀ callerFields, MethodsAt callerFields ⟨0, 0, 0⟩ (members "GET" "GET")
        (document "GET" "GET")) ∧
      (readAllowlist .json (text "GET" "GET") >>= Allowlist.build Registry.empty) =
        .ok (Allowlist.listOf Registry.empty allowed) ∧
      (Allowlist.listOf Registry.empty allowed).find? "github" "ci" "/repos" "GET" =
        some .unrestricted ∧
      (readDenylist .json (text "GET" "GET") >>= Denylist.build) =
        .ok (Denylist.listOf denied) := by
  have allowBuilt : Allowlist.build Registry.empty allowed =
      .ok (Allowlist.listOf Registry.empty allowed) := by decide +kernel
  have denyBuilt : Denylist.build denied = .ok (Denylist.listOf denied) := by decide +kernel
  refine ⟨repeated_parsed, fun callerFields => methodsAt callerFields _ _, ?_, ?_, ?_⟩
  · exact Checks.bind_eq_ok_iff.mpr ⟨allowed, read_allowed, allowBuilt⟩
  · decide +kernel
  · exact Checks.bind_eq_ok_iff.mpr ⟨denied, read_denied, denyBuilt⟩

end Document

end CallPolicy
