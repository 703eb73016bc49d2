import CallPolicy.Proofs.Entries
import CallPolicy.Proofs.Evaluation

/-!
Contract: exactly what each comparison of a constraint asks of a request.

Owns:
- checks of every entry of a map, told from its look-ups;
- the condition on headers, on queries, on bodies, and on whole requests.

Does not own: what a body gives when it is looked at.
-/

namespace CallPolicy

namespace Keyed

variable {β : Type}

theorem all_entries_iff {map : Keyed β} {check : String × β → Bool} :
    map.entries.all check = true ↔
      ∀ name value, map.get? name = some value → check (name, value) = true := by
  simp only [List.all_eq_true, get?_eq_some_iff, Prod.forall]

theorem isEmpty_iff {map : Keyed β} :
    map.isEmpty = true ↔ ∀ name, map.get? name = none := by
  constructor
  · intro empty name
    rw [get?, List.isEmpty_iff.mp empty, lookupEntry_nil]
  · intro absent
    have same : map = empty := eq_of_get? absent
    rw [same]
    rfl

end Keyed

namespace Constraint

open Text

variable {head : RequestHead} {body : Body} {form : Form} {mediaType : Option MediaType}

theorem headerMet_iff {name : String} {wanted : List String} :
    headerMet head name wanted = true ↔
      ∃ checked, headerName? (Utf8.bytes name) = some checked ∧
        head.headerValues checked ≠ [] ∧
          ∀ value ∈ wanted, Utf8.bytes value ∈ head.headerValues checked := by
  unfold headerMet
  cases headerName? (Utf8.bytes name) <;> simp

theorem headersMet_iff {wanted : Keyed (List String)} :
    headersMet head wanted = true ↔
      ∀ name values, wanted.get? name = some values → headerMet head name values = true :=
  Keyed.all_entries_iff

theorem formHas_iff {wanted : Keyed (List String)} :
    formHas form wanted = true ↔
      ∀ name values, wanted.get? name = some values →
        ∃ given, form.get? name = some given ∧ values ⊆ given := by
  refine Keyed.all_entries_iff.trans (forall₃_congr fun name values _ => ?_)
  cases form.get? name <;> simp [List.subset_def]

theorem queryMet_iff {wanted : Keyed (List String)} :
    queryMet head wanted = true ↔
      wanted.isEmpty = true ∨ ∃ form, Form.parse? (Utf8.bytes (head.query.getD "")) = some form ∧
        formHas form wanted = true := by
  unfold queryMet
  cases Form.parse? (Utf8.bytes (head.query.getD "")) <;> simp

theorem formMet_iff {wanted : Keyed Json} :
    formMet form wanted = true ↔
      ∀ name value, wanted.get? name = some value →
        ∃ given, form.get? name = some given ∧ fieldMet given value = true := by
  refine Keyed.all_entries_iff.trans (forall₃_congr fun name value _ => ?_)
  cases form.get? name <;> simp

/-- A body is read as an object or as a form, by its media type, and as nothing else. -/
theorem contentMet_iff {bytes : List UInt8} {wanted : Keyed Json} :
    contentMet mediaType bytes wanted = true ↔
      (mediaType = some .json ∧ ∃ members, Json.parseBytes? bytes = some (.object members) ∧
        Json.coversMembers (Json.membersOf members).entries wanted.entries = true) ∨
      (mediaType = some .form ∧ ∃ form, Form.parse? bytes = some form ∧
        formMet form wanted = true) := by
  match mediaType with
  | none => simp [contentMet]
  | some .form => cases parsed : Form.parse? bytes <;> simp [contentMet, parsed]
  | some .json =>
      cases parsed : Json.parseBytes? bytes with
      | none => simp [contentMet, parsed]
      | some value => cases value <;> simp [contentMet, parsed]

theorem met_iff {constraint : Constraint} :
    (constraint.met head body).1 = true ↔
      headersMet head constraint.headers = true ∧ queryMet head constraint.query = true ∧
        (constraint.body.isEmpty = true ∨ ∃ bytes, body.look.1 = .ok bytes ∧
          contentMet head.mediaType? bytes constraint.body = true) := by
  rw [met_fst, headMet, Bool.and_eq_true, Bool.and_eq_true, and_assoc, Bool.or_eq_true]
  cases body.look.1 <;> simp [outcomeMet]

end Constraint

end CallPolicy
