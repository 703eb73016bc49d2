import CallPolicy.Form
import CallPolicy.Proofs.Entries
import CallPolicy.Proofs.Utf8
import Mathlib.Data.List.Induction

/-!
Contract: form data that is read, and what the form that is read holds.

Owns:
- escapes that are broken off, told from the bytes around them;
- exactly which data is refused;
- the values that a form holds under a name.

Does not own: the texts that names and values are read as.
-/

namespace CallPolicy

namespace Text.Percent

/-! ### Broken escapes -/

/-- The byte is a hexadecimal digit in either case. -/
def IsDigit (byte : UInt8) : Prop :=
  (Ascii.hexValue? byte.toNat).isSome = true

instance (byte : UInt8) : Decidable (IsDigit byte) :=
  inferInstanceAs (Decidable (_ = true))

/-- Some percent sign is not followed by two hexadecimal digits. -/
def BrokenEscape (input : List UInt8) : Prop :=
  ∃ before after, input = before ++ sign :: after ∧
    ¬ ∃ high low rest, after = high :: low :: rest ∧ IsDigit high ∧ IsDigit low

theorem isSome_pair?_iff {high low : UInt8} :
    (pair? high low).isSome = true ↔ IsDigit high ∧ IsDigit low := by
  unfold pair? IsDigit
  cases Ascii.hexValue? high.toNat <;> cases Ascii.hexValue? low.toNat <;> simp

theorem isSome_escape?_iff {after : List UInt8} :
    (escape? sign after).isSome = true ↔
      ∃ high low rest, after = high :: low :: rest ∧ IsDigit high ∧ IsDigit low := by
  match after with
  | [] => simp [escape?]
  | [_] => simp [escape?]
  | high :: low :: rest => simp [escape?, isSome_pair?_iff]

theorem wellFormed_iff {input : List UInt8} :
    wellFormed input = true ↔ ¬ BrokenEscape input := by
  induction input with
  | nil => simp [wellFormed, BrokenEscape]
  | cons byte rest inductionHypothesis =>
      rw [wellFormed, Bool.and_eq_true, inductionHypothesis]
      constructor
      · rintro ⟨first, others⟩ ⟨before, after, cut, broken⟩
        cases before with
        | nil =>
            obtain ⟨rfl, rfl⟩ := List.cons.inj cut
            exact broken (isSome_escape?_iff.mp (by simpa using first))
        | cons _ before =>
            exact others ⟨before, after, (List.cons.inj cut).2, broken⟩
      · intro whole
        constructor
        · by_cases isSign : byte = sign
          · subst isSign
            by_contra broken
            refine whole ⟨[], rest, rfl, fun digits => broken ?_⟩
            rw [isSome_escape?_iff.mpr digits, Bool.or_true]
          · simp [isSign]
        · rintro ⟨before, after, rfl, broken⟩
          exact whole ⟨byte :: before, after, rfl, broken⟩

end Text.Percent

theorem Keyed.get?_addValue {β : Type} (map : Keyed (List β)) (name other : String) (value : β) :
    (map.addValue name value).get? other =
      if name = other then some ((map.get? name).getD [] ++ [value]) else map.get? other :=
  map.get?_insert name other _

namespace Form

open Text

/-! ### What is refused -/

theorem wellFormed_iff {input : List UInt8} :
    wellFormed input = true ↔ Utf8.IsText input ∧ ¬ Percent.BrokenEscape input := by
  rw [wellFormed, Bool.and_eq_true, Utf8.isSome_decode?_iff, Percent.wellFormed_iff]

theorem parse?_eq_some_iff {input : List UInt8} {form : Form} :
    parse? input = some form ↔
      (Utf8.IsText input ∧ ¬ Percent.BrokenEscape input) ∧ ofFields (readFields input) = form := by
  rw [parse?, ← wellFormed_iff]
  split <;> simp_all

/-- Data is refused when it is no text or breaks off an escape, and for no other reason. -/
theorem parse?_eq_none_iff {input : List UInt8} :
    parse? input = none ↔ ¬ Utf8.IsText input ∨ Percent.BrokenEscape input := by
  rw [← not_iff_not, not_or, not_not, ← wellFormed_iff, parse?]
  split <;> simp_all

/-! ### What a form holds -/

/-- The values of the fields with a name, in order. -/
def valuesOf (fields : List (String × String)) (name : String) : List String :=
  (fields.filter fun field => field.1 = name).map Prod.snd

/-- A form holds under a name the values that were sent under it, all of them and in their
order. -/
theorem get?_ofFields (fields : List (String × String)) (name : String) :
    (ofFields fields).get? name =
      if valuesOf fields name = [] then none else some (valuesOf fields name) := by
  induction fields using List.reverseRecOn with
  | nil => rfl
  | append_singleton fields field inductionHypothesis =>
      rw [ofFields, List.foldl_append]
      change ((ofFields fields).addValue field.1 field.2).get? name = _
      rw [Keyed.get?_addValue]
      by_cases same : field.1 = name
      · subst same
        have sent : valuesOf (fields ++ [field]) field.1 = valuesOf fields field.1 ++ [field.2] := by
          simp [valuesOf]
        have nonempty : valuesOf fields field.1 ++ [field.2] ≠ [] := by simp
        have earlier : ((ofFields fields).get? field.1).getD [] = valuesOf fields field.1 := by
          rw [inductionHypothesis]
          split <;> simp_all
        rw [if_pos rfl, earlier, sent, if_neg nonempty]
      · have unsent : valuesOf (fields ++ [field]) name = valuesOf fields name := by
          simp [valuesOf, same]
        rw [if_neg same, inductionHypothesis, unsent]

end Form

end CallPolicy
