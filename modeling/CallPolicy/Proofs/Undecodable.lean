import CallPolicy.Proofs.Evaluation
import CallPolicy.Proofs.FormData

/-!
Contract: form data whose names or values stand for bytes that are no text.

Owns:
- what read names and values have to do with the bytes that they stand for;
- the fields that a form was read from;
- exactly when such data fails every constraint on the query or on the body.

Does not own: data that is no text as it was sent.

## Why such data can be read

Data is looked through before its escapes are decoded, and the escapes are text whatever
bytes they stand for. What the bytes are is seen only when they are read, and there they
are replaced.
-/

namespace CallPolicy

open Text

namespace Form

/-! ### Read texts and sent bytes -/

/-- Some name or value stands for bytes that are no text. -/
def Undecodable (input : List UInt8) : Prop :=
  ∃ field ∈ rawFields input, ¬ Utf8.IsText (octets field.1) ∨ ¬ Utf8.IsText (octets field.2)

/-- Every name and value is read as the text that has its bytes. -/
def ReadsExactly (input : List UInt8) : Prop :=
  ∀ field ∈ rawFields input, Utf8.bytes (decodeText field.1) = octets field.1 ∧
    Utf8.bytes (decodeText field.2) = octets field.2

variable {raw : List UInt8}

theorem bytes_decodeText_iff :
    Utf8.bytes (decodeText raw) = octets raw ↔ Utf8.IsText (octets raw) := by
  rw [Utf8.bytes, decodeText, String.toList_ofList, Utf8.encode_decodeLossy_iff]

theorem bytes_decodeText_of_no_replacement
    (clean : Utf8.replacement ∉ (decodeText raw).toList) :
    Utf8.bytes (decodeText raw) = octets raw := by
  rw [decodeText, String.toList_ofList] at clean
  rw [Utf8.bytes, decodeText, String.toList_ofList,
    Utf8.encode_decodeLossy_of_no_replacement clean]

theorem readsExactly_iff {input : List UInt8} : ReadsExactly input ↔ ¬ Undecodable input := by
  simp only [ReadsExactly, Undecodable, bytes_decodeText_iff, not_exists, not_and, not_or, not_not]

/-! ### Sent fields -/

variable {fields : List (String × String)} {name value : String}

theorem mem_valuesOf_iff : value ∈ valuesOf fields name ↔ (name, value) ∈ fields := by
  simp [valuesOf]

theorem get?_of_sent (sent : (name, value) ∈ fields) :
    ∃ values, (ofFields fields).get? name = some values ∧ value ∈ values := by
  have isValue := mem_valuesOf_iff.mpr sent
  refine ⟨valuesOf fields name, ?_, isValue⟩
  rw [get?_ofFields, if_neg (List.ne_nil_of_mem isValue)]

theorem sent_of_get? {values : List String} (found : (ofFields fields).get? name = some values)
    (isValue : value ∈ values) : (name, value) ∈ fields := by
  rw [get?_ofFields] at found
  split at found
  · cases found
  · cases found
    exact mem_valuesOf_iff.mp isValue

end Form

namespace Constraint

open Form

/-! ### Constraints on queries and bodies that are read -/

variable {head : RequestHead} {body : Body} {form : Form} {name value : String}
  {values : List String}

theorem withQuery_met_of_sent
    (parsed : parse? (Utf8.bytes (head.query.getD "")) = some form)
    (found : form.get? name = some values) (isValue : value ∈ values) (body : Body) :
    ((unrestricted.withQuery name value).met head body).1 = true := by
  have asked : (unrestricted.withQuery name value).query.entries = [(name, [value])] := rfl
  have noHeaders : headersMet head (unrestricted.withQuery name value).headers = true := rfl
  have noBody : (unrestricted.withQuery name value).body.isEmpty = true := rfl
  have queried : queryMet head (unrestricted.withQuery name value).query = true := by
    rw [queryMet, parsed]
    simp [formHas, asked, found, isValue]
  rw [met_fst, headMet, noHeaders, queried, noBody]
  rfl

theorem withBodyField_met_of_sent (isForm : head.mediaType? = some .form)
    {bytes : List UInt8} (looked : body.look.1 = .ok bytes) (parsed : parse? bytes = some form)
    (found : form.get? name = some values) (isValue : value ∈ values) :
    ((unrestricted.withBodyField name (.string value)).met head body).1 = true := by
  have asked : (unrestricted.withBodyField name (.string value)).body.entries =
      [(name, .string value)] := rfl
  have noHead : headMet (unrestricted.withBodyField name (.string value)) head = true := rfl
  have content : outcomeMet head.mediaType? body.look.1
      (unrestricted.withBodyField name (.string value)).body = true := by
    rw [isForm, looked, outcomeMet, contentMet]
    simp [parsed, formMet, asked, found, fieldMet, isValue]
  rw [met_fst, noHead, content, Bool.or_true]
  rfl

theorem not_met_of_query_refused {constraint : Constraint}
    (asked : constraint.query.isEmpty = false)
    (refused : parse? (Utf8.bytes (head.query.getD "")) = none) :
    (constraint.met head body).1 = false := by
  simp [met_fst, headMet, queryMet, asked, refused]

theorem not_met_of_form_refused {constraint : Constraint}
    (asked : constraint.body.isEmpty = false) (isForm : head.mediaType? = some .form)
    {bytes : List UInt8} (looked : body.look.1 = .ok bytes) (refused : parse? bytes = none) :
    (constraint.met head body).1 = false := by
  simp [met_fst, asked, isForm, looked, refused, outcomeMet, contentMet]

end Constraint

/-! ### When undecodable data fails -/

namespace Form

theorem exists_sent_of_undecodable {input : List UInt8} (undecodable : Undecodable input) :
    ∃ name value values, (ofFields (readFields input)).get? name = some values ∧
      value ∈ values := by
  obtain ⟨field, isField, _⟩ := undecodable
  have sent : (decodeText field.1, decodeText field.2) ∈ readFields input :=
    List.mem_map_of_mem isField
  obtain ⟨values, found, isValue⟩ := get?_of_sent sent
  exact ⟨_, _, values, found, isValue⟩

/-- Data in which a name or a value stands for bytes that are no text fails every constraint
exactly when it would be refused anyway: because it is no text as it was sent, or because
an escape in it is broken. Otherwise it is read, and it is read exactly unless a name or a
value is of this kind. A name and a value without replacements are exact in any case. -/
theorem undecodable_fails_iff (head : RequestHead) (input : List UInt8) :
    (Utf8.bytes (head.query.getD "") = input → Undecodable input →
      ((∀ (constraint : Constraint) (body : Body), constraint.query.isEmpty = false →
          (constraint.met head body).1 = false) ↔
        Percent.BrokenEscape input)) ∧
      (∀ body : Body, head.mediaType? = some .form → body.look.1 = .ok input →
        Undecodable input →
        ((∀ constraint : Constraint, constraint.body.isEmpty = false →
            (constraint.met head body).1 = false) ↔
          ¬ Utf8.IsText input ∨ Percent.BrokenEscape input)) ∧
      ∀ form, parse? input = some form →
        (ReadsExactly input ↔ ¬ Undecodable input) ∧
          ∀ name values value, form.get? name = some values → value ∈ values →
            Utf8.replacement ∉ name.toList → Utf8.replacement ∉ value.toList →
            ∃ field ∈ rawFields input,
              octets field.1 = Utf8.bytes name ∧ octets field.2 = Utf8.bytes value := by
  refine ⟨?_, ?_, ?_⟩
  · rintro rfl undecodable
    constructor
    · intro closed
      by_contra whole
      have text : Utf8.IsText (Utf8.bytes (head.query.getD "")) := ⟨_, rfl⟩
      obtain ⟨name, value, values, found, isValue⟩ := exists_sent_of_undecodable undecodable
      have isMet := Constraint.withQuery_met_of_sent
        (parse?_eq_some_iff.mpr ⟨⟨text, whole⟩, rfl⟩) found isValue Body.empty
      have failed := closed (Constraint.unrestricted.withQuery name value) Body.empty rfl
      rw [isMet] at failed
      cases failed
    · intro broken constraint body asked
      exact Constraint.not_met_of_query_refused asked (parse?_eq_none_iff.mpr (Or.inr broken))
  · intro body isForm looked undecodable
    constructor
    · intro closed
      by_contra whole
      rw [not_or, not_not] at whole
      obtain ⟨name, value, values, found, isValue⟩ := exists_sent_of_undecodable undecodable
      have isMet := Constraint.withBodyField_met_of_sent isForm looked
        (parse?_eq_some_iff.mpr ⟨whole, rfl⟩) found isValue
      have failed := closed (Constraint.unrestricted.withBodyField name (.string value)) rfl
      rw [isMet] at failed
      cases failed
    · intro refused constraint asked
      exact Constraint.not_met_of_form_refused asked isForm looked
        (parse?_eq_none_iff.mpr refused)
  · intro form parsed
    obtain ⟨_, rfl⟩ := parse?_eq_some_iff.mp parsed
    refine ⟨readsExactly_iff, ?_⟩
    intro name values value found isValue cleanName cleanValue
    obtain ⟨field, isField, read⟩ := List.mem_map.mp (sent_of_get? found isValue)
    obtain ⟨rfl, rfl⟩ := Prod.mk.inj read
    exact ⟨field, isField, (bytes_decodeText_of_no_replacement cleanName).symm,
      (bytes_decodeText_of_no_replacement cleanValue).symm⟩

namespace UndecodableSample

/-- A value that is an escape for a byte which begins no character, and one that is read
exactly. -/
def data : String := "a=%FF&b=1"

def head : RequestHead := ⟨"GET", "/", some data, []⟩

/-- The same query with an escape that is broken off. -/
def brokenHead : RequestHead := ⟨"GET", "/", some (data ++ "%"), []⟩

/-- A post of form data. -/
def formHead : RequestHead :=
  ⟨"POST", "/", none, [("content-type", Utf8.bytes "application/x-www-form-urlencoded")]⟩

/-- The text that the undecodable value is read as is asked for. -/
def constraint : Constraint := Constraint.unrestricted.withQuery "a" "\uFFFD"

theorem undecodable : Undecodable (Utf8.bytes data) := by
  have sent : (Utf8.bytes "a", Utf8.bytes "%FF") ∈ rawFields (Utf8.bytes data) := by decide
  exact ⟨_, sent, Or.inr (by decide +kernel)⟩

end UndecodableSample

open UndecodableSample in
theorem undecodable_fails_iff_sample :
    (constraint.met brokenHead Body.empty).1 = false ∧
      (∃ asked : Constraint, asked.body.isEmpty = false ∧
        (asked.met formHead (.buffered (Utf8.bytes data) 9)).1 = true) ∧
      ¬ ReadsExactly (Utf8.bytes data) ∧
      ∃ field ∈ rawFields (Utf8.bytes data),
        octets field.1 = Utf8.bytes "b" ∧ octets field.2 = Utf8.bytes "1" := by
  refine ⟨?_, ?_, ?_⟩
  · have sent : (Utf8.bytes "a", Utf8.bytes "%FF") ∈ rawFields (Utf8.bytes (data ++ "%")) := by
      decide
    have broken : Percent.BrokenEscape (Utf8.bytes (data ++ "%")) :=
      ⟨Utf8.bytes data, [], by decide, by simp⟩
    have undecodable : Undecodable (Utf8.bytes (data ++ "%")) :=
      ⟨_, sent, Or.inr (by decide +kernel)⟩
    exact ((undecodable_fails_iff brokenHead _).1 rfl undecodable).mpr broken constraint
      Body.empty rfl
  · have whole : ¬ (¬ Utf8.IsText (Utf8.bytes data) ∨ Percent.BrokenEscape (Utf8.bytes data)) := by
      rw [← parse?_eq_none_iff]
      decide +kernel
    have unclosed := mt ((undecodable_fails_iff formHead (Utf8.bytes data)).2.1
      (.buffered (Utf8.bytes data) 9) (by decide +kernel) rfl undecodable).mp whole
    simpa using unclosed
  · have parsed : parse? (Utf8.bytes data) = some (ofFields (readFields (Utf8.bytes data))) := by
      decide +kernel
    obtain ⟨exactly, held⟩ := (undecodable_fails_iff head (Utf8.bytes data)).2.2 _ parsed
    exact ⟨fun reads => exactly.mp reads undecodable,
      held "b" ["1"] "1" (by decide +kernel) (by decide) (by decide) (by decide)⟩

open UndecodableSample in
/-- An undecodable value satisfies a constraint, and another one is read as the same text. -/
theorem undecodable_met :
    Undecodable (Utf8.bytes (head.query.getD "")) ∧ constraint.query.isEmpty = false ∧
      (constraint.met head Body.empty).1 = true ∧
      (parse? (Utf8.bytes data)).isSome = true ∧ ¬ ReadsExactly (Utf8.bytes data) ∧
      decodeText (Utf8.bytes "%FF") = decodeText (Utf8.bytes "%FE") ∧
      octets (Utf8.bytes "%FF") ≠ octets (Utf8.bytes "%FE") :=
  ⟨undecodable, rfl, by decide +kernel, by decide +kernel,
    fun reads => readsExactly_iff.mp reads undecodable, by decide +kernel, by decide⟩

end Form

end CallPolicy
