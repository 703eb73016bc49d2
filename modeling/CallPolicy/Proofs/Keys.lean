import CallPolicy.Entry
import CallPolicy.Proofs.LowerCase

/-!
Contract: the key of a key is the key.

Owns: that the keys of integrations and callers and the upper case of methods do not
change when they are taken again, and that no caller has the empty key.

Does not own: what is stored under the keys.
-/

namespace CallPolicy

/-- A key of an integration is its own key. -/
theorem integrationKey_integrationKey (name : String) :
    integrationKey (integrationKey name) = integrationKey name := by
  rw [integrationKey, integrationKey, Text.trim_toLower_trim, Text.toLower_toLower]

theorem callerKey_ne_empty (id : String) : callerKey id ≠ "" := by
  unfold callerKey
  split
  · decide
  · rename_i named
    exact fun empty => named (String.isEmpty_iff.mpr empty)

theorem callerKey_of_ne_empty {id : String} (named : id ≠ "") : callerKey id = id :=
  if_neg fun empty => named (String.isEmpty_iff.mp empty)

@[simp] theorem callerKey_callerKey (id : String) : callerKey (callerKey id) = callerKey id :=
  callerKey_of_ne_empty (callerKey_ne_empty id)

namespace Text.Ascii

theorem toUpper_toUpper (char : Char) : char.toUpper.toUpper = char.toUpper := by
  by_cases small : 'a'.val ≤ char.val ∧ char.val ≤ 'z'.val
  · have ascii : char.toNat < 0x80 :=
      Nat.lt_of_le_of_lt (UInt32.le_iff_toNat_le.mp small.2) (by decide)
    have checked : ∀ code < 0x80, (Char.ofNat code).toUpper.toUpper = (Char.ofNat code).toUpper := by
      decide
    rw [← Char.ofNat_toNat char]
    exact checked char.toNat ascii
  · have same : char.toUpper = char := dif_neg small
    rw [same, same]

theorem upper_upper (text : String) : upper (upper text) = upper text := by
  have chars : (text.toList.map Char.toUpper).map Char.toUpper = text.toList.map Char.toUpper := by
    rw [List.map_map]
    exact List.map_congr_left fun char _ => toUpper_toUpper char
  simp only [upper, String.toList_ofList, chars]

end Text.Ascii

end CallPolicy
