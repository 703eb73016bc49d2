import CallPolicy.Document.ToJson
import CallPolicy.Proofs.Documents
import CallPolicy.Proofs.WrittenValues

/-!
Contract: policy documents are read as the entries that were written.

Owns:
- which entries a document can hold without loss;
- the records of entries, each written and read back, with the parts that are left out when
  they are empty;
- that both forms of a written list are read as that list.

Does not own: documents in other formats, and checks of the entries.

## What a document cannot hold

The segments of a prepared rule are not written. A free value is read in its canonical form,
and a double may be rounded by its decimal text. So rules have to be unprepared, and free values
canonical and without doubles. Canonical is what all values are that were read from a document.
-/

namespace CallPolicy

/-- The free value is canonical, and its numbers are integers of 64 bits. -/
structure Json.Plain (value : Json) : Prop where
  whole : value.Whole
  canonical : value.canonical = value

/-- The rule is not prepared, and the bodies that it asks for have plain values. -/
structure Rule.Plain (rule : Rule) : Prop where
  unprepared : rule.segments = []
  bodies : ∀ method ∈ rule.methods.entries, ∀ field ∈ method.2.body.entries, field.2.Plain

def CapabilityUse.Plain (use : CapabilityUse) : Prop :=
  ∀ param ∈ use.params.entries, param.2.Plain

def AllowEntry.Plain (entry : AllowEntry) : Prop :=
  ∀ caller ∈ entry.callers,
    (∀ use ∈ caller.capabilities, use.Plain) ∧ ∀ rule ∈ caller.rules, rule.Plain

def DenyEntry.Plain (entry : DenyEntry) : Prop :=
  ∀ caller ∈ entry.callers, ∀ rule ∈ caller.rules, rule.Plain

namespace Document

/-- What is written for a value has only numbers that are read exactly, and is read as the
value. -/
structure Keeps {β : Type} (read : Json → Option β) (written : Json) (value : β) : Prop where
  whole : written.Whole
  isRead : read written = some value

/-! ### Lists and maps -/

section Parts

variable {β : Type} {read : Json → Option β} {write : β → Json}

theorem keeps_text (text : String) : Keeps Node.text? (.string text) text :=
  ⟨.string text, rfl⟩

theorem keeps_free {value : Json} (plain : value.Plain) : Keeps Node.value? value value :=
  ⟨plain.whole, congrArg some plain.canonical⟩

theorem keeps_list {items : List β} (each : ∀ item ∈ items, Keeps read (write item) item) :
    Keeps (list? read) (.array (items.map write)) items where
  whole := .array (List.forall_mem_map.mpr fun item member => (each item member).whole)
  isRead := by
    have isRead : (items.map write).mapM read = some items := by
      rw [Checks.mapM_eq_some_iff, List.forall₂_map_left_iff, List.forall₂_same]
      exact fun item member => (each item member).isRead
    exact isRead

/-- The names of a map are written in its order, so that reading brings the same map about. -/
theorem keeps_map {map : Keyed β} (each : ∀ entry ∈ map.entries, Keeps read (write entry.2) entry.2) :
    Keeps (map? read) (.object (map.entries.map fun entry => (entry.1, write entry.2))) map where
  whole := .object (List.forall_mem_map.mpr fun entry member => (each entry member).whole)
  isRead := by
    refine map?_eq_some_iff.mpr ⟨map.entries, ?_, map.ofList_entries⟩
    rw [MembersRead, List.forall₂_map_left_iff, List.forall₂_same]
    intro entry member
    rw [(each entry member).isRead]
    rfl

theorem keeps_values (map : Keyed (List String)) : Keeps (map? texts?) (valuesJson map) map :=
  keeps_map fun _ _ => keeps_list fun text _ => keeps_text text

theorem keeps_freeMap {map : Keyed Json} (plain : ∀ entry ∈ map.entries, entry.2.Plain) :
    Keeps (map? Node.value?) (.object map.entries) map := by
  have kept := @keeps_map _ Node.value? id map fun entry member => keeps_free (plain entry member)
  have unchanged : (map.entries.map fun entry => (entry.1, id entry.2)) = map.entries :=
    List.map_id _
  rwa [unchanged] at kept

end Parts

/-! ### Parts that are left out -/

section LeftOut

variable {β : Type} {read : Json → Option β} {written : Json} {value absent : β} {empty : Bool}

theorem whole_unlessEmpty (name : String) (kept : Keeps read written value) :
    ∀ member ∈ unlessEmpty empty name written, member.2.Whole := by
  cases empty with
  | true => exact List.forall_mem_nil _
  | false => exact List.forall_mem_singleton.mpr kept.whole

theorem Keeps.required (kept : Keeps read written value) :
    requiredField read (some written) = some value := kept.isRead

theorem Keeps.given (kept : Keeps read written value) :
    optionalField read absent (some written) = some value := kept.isRead

/-- A part may be left out where it is what stands for an absent one. -/
theorem Keeps.unlessEmpty (kept : Keeps read written value)
    (isAbsent : empty = true → absent = value) :
    optionalField read absent (if empty then none else some written) = some value := by
  cases empty with
  | true => exact congrArg some (isAbsent rfl)
  | false => exact kept.isRead

theorem eq_empty_of_isEmpty {map : Keyed β} (isEmpty : map.isEmpty = true) :
    Keyed.empty = map := by
  obtain ⟨entries, rising⟩ := map
  obtain rfl : entries = [] := List.isEmpty_iff.mp isEmpty
  rfl

end LeftOut

/-! ### Records -/

theorem keeps_constraint {constraint : Constraint}
    (plain : ∀ field ∈ constraint.body.entries, field.2.Plain) :
    Keeps constraint? (constraintJson constraint) constraint := by
  have headers := keeps_values constraint.headers
  have query := keeps_values constraint.query
  have body := keeps_freeMap plain
  constructor
  case whole =>
    refine .object (List.forall_mem_append.mpr ⟨List.forall_mem_append.mpr ⟨?_, ?_⟩, ?_⟩)
    · exact whole_unlessEmpty "headers" headers
    · exact whole_unlessEmpty "query" query
    · exact whole_unlessEmpty "body" body
  case isRead =>
    have fields : Node.fields? ["headers", "query", "body"] (constraintJson constraint) =
        some [if constraint.headers.isEmpty then none else some (valuesJson constraint.headers),
          if constraint.query.isEmpty then none else some (valuesJson constraint.query),
          if constraint.body.isEmpty then none else some (.object constraint.body.entries)] := by
      unfold constraintJson
      cases constraint.headers.isEmpty <;> cases constraint.query.isEmpty <;>
        cases constraint.body.isEmpty <;> rfl
    simp only [constraint?, fields, headers.unlessEmpty eq_empty_of_isEmpty,
      query.unlessEmpty eq_empty_of_isEmpty, body.unlessEmpty eq_empty_of_isEmpty,
      Option.bind_eq_bind, Option.bind_some]

theorem keeps_rule {rule : Rule} (plain : rule.Plain) : Keeps rule? (ruleJson rule) rule := by
  obtain ⟨path, methods, segments⟩ := rule
  obtain rfl : segments = [] := plain.unprepared
  have kept : Keeps (map? constraint?) (methodsJson methods) methods :=
    keeps_map fun method member => keeps_constraint (plain.bodies method member)
  constructor
  case whole =>
    exact .object (List.forall_mem_cons.mpr
      ⟨.string path, List.forall_mem_singleton.mpr kept.whole⟩)
  case isRead =>
    have fields : Node.fields? ["path", "methods"] (ruleJson ⟨path, methods, []⟩) =
        some [some (.string path), some (methodsJson methods)] := rfl
    simp only [rule?, fields, (keeps_text path).required, kept.given, Option.bind_eq_bind,
      Option.bind_some]

theorem keeps_capabilityUse {use : CapabilityUse} (plain : use.Plain) :
    Keeps capabilityUse? (capabilityUseJson use) use := by
  have params := keeps_freeMap plain
  constructor
  case whole =>
    exact .object (List.forall_mem_cons.mpr
      ⟨.string use.name, whole_unlessEmpty "params" params⟩)
  case isRead =>
    have fields : Node.fields? ["name", "params"] (capabilityUseJson use) =
        some [some (.string use.name),
          if use.params.isEmpty then none else some (.object use.params.entries)] := by
      unfold capabilityUseJson
      cases use.params.isEmpty <;> rfl
    simp only [capabilityUse?, fields, (keeps_text use.name).required,
      params.unlessEmpty eq_empty_of_isEmpty, Option.bind_eq_bind, Option.bind_some]

theorem keeps_allowCaller {caller : AllowCaller}
    (plainUses : ∀ use ∈ caller.capabilities, use.Plain)
    (plainRules : ∀ rule ∈ caller.rules, rule.Plain) :
    Keeps allowCaller? (allowCallerJson caller) caller := by
  have capabilities := keeps_list fun use member => keeps_capabilityUse (plainUses use member)
  have rules := keeps_list fun rule member => keeps_rule (plainRules rule member)
  constructor
  case whole =>
    refine .object (List.forall_mem_cons.mpr ⟨.string caller.id, ?_⟩)
    exact List.forall_mem_append.mpr ⟨whole_unlessEmpty "capabilities" capabilities,
      List.forall_mem_singleton.mpr rules.whole⟩
  case isRead =>
    have fields : Node.fields? ["id", "capabilities", "rules"] (allowCallerJson caller) =
        some [some (.string caller.id),
          if caller.capabilities.isEmpty then none
            else some (.array (caller.capabilities.map capabilityUseJson)),
          some (.array (caller.rules.map ruleJson))] := by
      unfold allowCallerJson
      cases caller.capabilities.isEmpty <;> rfl
    simp only [allowCaller?, fields, (keeps_text caller.id).given,
      capabilities.unlessEmpty fun isEmpty => (List.isEmpty_iff.mp isEmpty).symm, rules.given,
      Option.bind_eq_bind, Option.bind_some]

theorem keeps_denyCaller {caller : DenyCaller} (plain : ∀ rule ∈ caller.rules, rule.Plain) :
    Keeps denyCaller? (denyCallerJson caller) caller := by
  have rules := keeps_list fun rule member => keeps_rule (plain rule member)
  constructor
  case whole =>
    exact .object (List.forall_mem_cons.mpr
      ⟨.string caller.id, List.forall_mem_singleton.mpr rules.whole⟩)
  case isRead =>
    have fields : Node.fields? ["id", "rules"] (denyCallerJson caller) =
        some [some (.string caller.id), some (.array (caller.rules.map ruleJson))] := rfl
    simp only [denyCaller?, fields, (keeps_text caller.id).given, rules.required,
      Option.bind_eq_bind, Option.bind_some]

theorem keeps_allowEntry {entry : AllowEntry} (plain : entry.Plain) :
    Keeps allowEntry? (allowEntryJson entry) entry := by
  have callers := keeps_list fun caller member =>
    keeps_allowCaller (plain caller member).1 (plain caller member).2
  constructor
  case whole =>
    exact .object (List.forall_mem_cons.mpr
      ⟨.string entry.integration, List.forall_mem_singleton.mpr callers.whole⟩)
  case isRead =>
    have fields : Node.fields? ["integration", "callers"] (allowEntryJson entry) =
        some [some (.string entry.integration),
          some (.array (entry.callers.map allowCallerJson))] := rfl
    simp only [ allowEntry?, fields, (keeps_text entry.integration).required, callers.given,
      Option.bind_eq_bind, Option.bind_some]

theorem keeps_denyEntry {entry : DenyEntry} (plain : entry.Plain) :
    Keeps denyEntry? (denyEntryJson entry) entry := by
  have callers := keeps_list fun caller member => keeps_denyCaller (plain caller member)
  constructor
  case whole =>
    exact .object (List.forall_mem_cons.mpr
      ⟨.string entry.integration, List.forall_mem_singleton.mpr callers.whole⟩)
  case isRead =>
    have fields : Node.fields? ["integration", "callers"] (denyEntryJson entry) =
        some [some (.string entry.integration),
          some (.array (entry.callers.map denyCallerJson))] := rfl
    simp only [ denyEntry?, fields, (keeps_text entry.integration).required, callers.given,
      Option.bind_eq_bind, Option.bind_some]

/-! ### Documents -/

theorem read_json_of_keeps {β : Type} (entries? : {node : Type} → [Node node] → node → Option β)
    {document : Json} {entries : β} (keeps : Keeps entries? document entries)
    (shallow : document.depth ≤ Json.depthLimit) {text : List Char}
    (reads : Json.Token.Reads text document.tokens) :
    read .json entries? (String.ofList text) = .ok entries := by
  refine (read_json_eq_ok_iff entries? ?_).mpr keeps.isRead
  rw [String.toList_ofList, Json.parse?_of_reads reads, if_pos shallow]

/-- A list of entries is read from the text that is written for it, on one line or on many,
where its entries are plain and its document is not too deep. -/
theorem written_entries_read :
    (∀ entries : List AllowEntry, (∀ entry ∈ entries, entry.Plain) →
      (Json.array (entries.map allowEntryJson)).depth ≤ Json.depthLimit →
        readAllowlist .json (String.ofList (Json.array (entries.map allowEntryJson)).render) =
            .ok entries ∧
          readAllowlist .json
            (String.ofList ((Json.array (entries.map allowEntryJson)).renderLines 0)) =
            .ok entries) ∧
    ∀ entries : List DenyEntry, (∀ entry ∈ entries, entry.Plain) →
      (Json.array (entries.map denyEntryJson)).depth ≤ Json.depthLimit →
        readDenylist .json (String.ofList (Json.array (entries.map denyEntryJson)).render) =
            .ok entries ∧
          readDenylist .json
            (String.ofList ((Json.array (entries.map denyEntryJson)).renderLines 0)) =
            .ok entries := by
  constructor
  · intro entries plain shallow
    have keeps := keeps_list fun entry member => keeps_allowEntry (plain entry member)
    exact ⟨read_json_of_keeps _ keeps shallow (Json.Printer.oneLine.reads_value keeps.whole 0),
      read_json_of_keeps _ keeps shallow (Json.Printer.manyLines.reads_value keeps.whole 0)⟩
  · intro entries plain shallow
    have keeps := keeps_list fun entry member => keeps_denyEntry (plain entry member)
    exact ⟨read_json_of_keeps _ keeps shallow (Json.Printer.oneLine.reads_value keeps.whole 0),
      read_json_of_keeps _ keeps shallow (Json.Printer.manyLines.reads_value keeps.whole 0)⟩

namespace WrittenSample

/-- The integers at both ends, in an array of an object. -/
def value : Json :=
  .object [("ends", .array [.ofInt Number.lowestInteger, .ofInt Number.highestInteger])]

theorem plain : value.Plain where
  whole := .object (List.forall_mem_singleton.mpr (.array (List.forall_mem_cons.mpr
    ⟨.number ⟨by decide, by decide⟩,
      List.forall_mem_singleton.mpr (.number ⟨by decide, by decide⟩)⟩)))
  canonical := rfl

/-- A rule that asks for a header and for that value, on a path that is written with escapes. -/
def rule : Rule :=
  (Rule.onPath "/\"\n\x1f").withMethod "POST"
    ((Constraint.unrestricted.withHeader "x" "1").withBodyField "value" value)

theorem rule_plain : rule.Plain where
  unprepared := rfl
  bodies := List.forall_mem_singleton.mpr (List.forall_mem_singleton.mpr plain)

def allowed : List AllowEntry :=
  [⟨"GitHub", [⟨"ci", [⟨"read", Keyed.empty.insert "value" value⟩], []⟩, ⟨"", [], [rule]⟩]⟩]

def denied : List DenyEntry := [⟨"GitHub", [⟨"ci", [rule]⟩]⟩, ⟨"Slack", []⟩]

end WrittenSample

open WrittenSample in
theorem written_entries_read_sample :
    readAllowlist .json
        (String.ofList ((Json.array (allowed.map allowEntryJson)).renderLines 0)) = .ok allowed ∧
      readDenylist .json (String.ofList (Json.array (denied.map denyEntryJson)).render) =
        .ok denied := by
  constructor
  · refine (written_entries_read.1 allowed ?_ (by decide +kernel)).2
    refine List.forall_mem_singleton.mpr (List.forall_mem_cons.mpr ⟨⟨?_, nofun⟩, ?_⟩)
    · exact List.forall_mem_singleton.mpr (List.forall_mem_singleton.mpr plain)
    · exact List.forall_mem_singleton.mpr ⟨nofun, List.forall_mem_singleton.mpr rule_plain⟩
  · refine (written_entries_read.2 denied ?_ (by decide +kernel)).1
    refine List.forall_mem_cons.mpr ⟨?_, List.forall_mem_singleton.mpr nofun⟩
    exact List.forall_mem_singleton.mpr (List.forall_mem_singleton.mpr rule_plain)

end Document

end CallPolicy
