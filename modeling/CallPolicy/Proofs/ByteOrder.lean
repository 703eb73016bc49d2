import CallPolicy.Text.Utf8
import Mathlib.Data.List.Basic

/-!
Contract: the order of texts is the order of their bytes.

Owns: the bytes of one character by the digits of its code point, and that UTF-8 keeps
the order of characters and of texts.

Does not own: what is sorted by this order.
-/

namespace CallPolicy.Text.Utf8

/-- The bytes of a code point from its digits in base 64. -/
inductive Encodes (code : Nat) : List UInt8 → Prop where
  | one (high : code < 0x80) : Encodes code [UInt8.ofNat code]
  | two (first second : Nat) (digits : code = first * 64 + second) (below : second < 64)
      (low : 0x80 ≤ code) (high : code < 0x800) :
      Encodes code [UInt8.ofNat (first + 0xC0), UInt8.ofNat (second + 0x80)]
  | three (first second third : Nat) (digits : code = (first * 64 + second) * 64 + third)
      (below : second < 64 ∧ third < 64) (low : 0x800 ≤ code) (high : code < 0x10000) :
      Encodes code [UInt8.ofNat (first + 0xE0), UInt8.ofNat (second + 0x80),
        UInt8.ofNat (third + 0x80)]
  | four (first second third fourth : Nat)
      (digits : code = ((first * 64 + second) * 64 + third) * 64 + fourth)
      (below : second < 64 ∧ third < 64 ∧ fourth < 64) (low : 0x10000 ≤ code)
      (high : code < 0x110000) :
      Encodes code [UInt8.ofNat (first + 0xF0), UInt8.ofNat (second + 0x80),
        UInt8.ofNat (third + 0x80), UInt8.ofNat (fourth + 0x80)]

theorem encodes_encodeChar (char : Char) : Encodes char.toNat (String.utf8EncodeChar char) := by
  have bound : char.val.toNat < 0x110000 := by
    rcases char.valid with low | ⟨_, high⟩
    · exact Nat.lt_trans low (by decide)
    · exact high
  unfold String.utf8EncodeChar Char.toNat
  simp only
  split
  · exact .one (by omega)
  · split
    · have first : char.val.toNat / 64 % 32 = char.val.toNat / 64 := by omega
      rw [first]
      exact .two _ _ (by omega) (by omega) (by omega) (by omega)
    · split
      · have first : char.val.toNat / 4096 % 16 = char.val.toNat / 4096 := by omega
        rw [first]
        exact .three _ _ _ (by omega) (by omega) (by omega) (by omega)
      · have first : char.val.toNat / 262144 % 8 = char.val.toNat / 262144 := by omega
        rw [first]
        exact .four _ _ _ _ (by omega) (by omega) (by omega) (by omega)

/-- The bytes of a smaller code point come first, whatever follows them. -/
theorem Encodes.append_lt {left right : Nat} (below : left < right)
    {leftBytes rightBytes : List UInt8} (leftEncoded : Encodes left leftBytes)
    (rightEncoded : Encodes right rightBytes) (leftRest rightRest : List UInt8) :
    leftBytes ++ leftRest < rightBytes ++ rightRest := by
  -- More bytes mean a greater first byte. With as many bytes the first digit that differs
  -- decides, as it does between the code points.
  cases leftEncoded <;> cases rightEncoded <;>
  · simp only [List.cons_append, List.nil_append, List.cons_lt_cons_iff,
      UInt8.lt_iff_toNat_lt, UInt8.toNat_ofNat', ← UInt8.toNat_inj]
    omega

theorem append_lt_append_left (start : List UInt8) {left right : List UInt8}
    (below : left < right) : start ++ left < start ++ right := by
  induction start with
  | nil => exact below
  | cons byte rest inductionHypothesis =>
      exact List.cons_lt_cons_iff.mpr (Or.inr ⟨rfl, inductionHypothesis⟩)

theorem encode_lt_of_lt {left right : List Char} (below : left < right) :
    encode left < encode right := by
  induction left generalizing right with
  | nil =>
      cases right with
      | nil => exact absurd below (List.lt_irrefl _)
      | cons char rest =>
          obtain ⟨first, others, encoded⟩ :=
            List.exists_cons_of_ne_nil (String.utf8EncodeChar_ne_nil (c := char))
          have bytes : encode (char :: rest) = first :: (others ++ encode rest) := by
            rw [encode, List.flatMap_cons, encoded, List.cons_append]
            rfl
          rw [bytes]
          exact List.nil_lt_cons _ _
  | cons char rest inductionHypothesis =>
      cases right with
      | nil => exact absurd below (List.not_lt_nil _)
      | cons other others =>
          change String.utf8EncodeChar char ++ encode rest <
            String.utf8EncodeChar other ++ encode others
          rcases List.cons_lt_cons_iff.mp below with smaller | ⟨rfl, restBelow⟩
          · have codes : char.toNat < other.toNat := UInt32.lt_iff_toNat_lt.mp smaller
            exact (encodes_encodeChar char).append_lt codes (encodes_encodeChar other) _ _
          · exact append_lt_append_left _ (inductionHypothesis restBelow)

/-- Texts are ordered as their bytes are. -/
theorem bytes_lt_of_lt {left right : String} (below : left < right) :
    bytes left < bytes right :=
  encode_lt_of_lt below

end CallPolicy.Text.Utf8
