import CallPolicy.Text.Split

/-!
Contract: UTF-8 between lists of bytes and lists of characters.

Owns:
- `encode`, the bytes of a text;
- `decode?`, which refuses every byte list that is no encoding;
- `decodeLossy`, which writes U+FFFD for each part that cannot be read.

Does not own: percent escapes or any other layer above the bytes.
-/

namespace CallPolicy.Text.Utf8

/-- The bytes of a text. -/
def encode (text : List Char) : List UInt8 :=
  text.flatMap String.utf8EncodeChar

/-- The bytes of a string. -/
def bytes (text : String) : List UInt8 :=
  encode text.toList

/-- What the first byte of an encoding announces: how many bytes follow, the
bounds of the first of them, and the bits it gives itself. -/
structure Lead where
  more : Nat
  low : UInt8
  high : UInt8
  bits : Nat
deriving DecidableEq, Repr

/-- The shape announced by a first byte, if it can be one.

The narrower bounds keep out longer spellings of short code points, the
surrogates and everything above the last code point. -/
def Lead.ofByte? (byte : UInt8) : Option Lead :=
  if byte < 0x80 then some ⟨0, 0x80, 0xBF, byte.toNat⟩
  else if byte < 0xC2 then none
  else if byte < 0xE0 then some ⟨1, 0x80, 0xBF, byte.toNat % 0x20⟩
  else if byte = 0xE0 then some ⟨2, 0xA0, 0xBF, 0⟩
  else if byte = 0xED then some ⟨2, 0x80, 0x9F, 0xD⟩
  else if byte < 0xF0 then some ⟨2, 0x80, 0xBF, byte.toNat % 0x10⟩
  else if byte = 0xF0 then some ⟨3, 0x90, 0xBF, 0⟩
  else if byte < 0xF4 then some ⟨3, 0x80, 0xBF, byte.toNat % 0x08⟩
  else if byte = 0xF4 then some ⟨3, 0x80, 0x8F, 4⟩
  else none

/-- Reads the bytes that a lead announced, six bits from each, and stops before
the first one that is out of bounds. -/
def follow : Nat → UInt8 → UInt8 → Nat → List UInt8 → Option Nat × List UInt8
  | 0, _, _, bits, rest => (some bits, rest)
  | _ + 1, _, _, _, [] => (none, [])
  | more + 1, low, high, bits, byte :: rest =>
      if low ≤ byte ∧ byte ≤ high then
        follow more 0x80 0xBF (bits * 0x40 + byte.toNat % 0x40) rest
      else
        (none, byte :: rest)

theorem follow_rest_length_le (more : Nat) (low high : UInt8) (bits : Nat)
    (rest : List UInt8) :
    (follow more low high bits rest).2.length ≤ rest.length := by
  induction more generalizing low high bits rest with
  | zero => simp [follow]
  | succ more inductionHypothesis =>
      cases rest with
      | nil => simp [follow]
      | cons byte rest =>
          simp only [follow]
          split
          · exact Nat.le_succ_of_le (inductionHypothesis _ _ _ _)
          · exact Nat.le_refl _

/-- The first character, or nothing when the bytes begin with none, and the
bytes left after it.

What is skipped when there is no character is the longest start of an encoding,
at least one byte. -/
def next (lead : UInt8) (rest : List UInt8) : Option Char × List UInt8 :=
  match Lead.ofByte? lead with
  | none => (none, rest)
  | some shape =>
      let followed := follow shape.more shape.low shape.high shape.bits rest
      (followed.1.map Char.ofNat, followed.2)

theorem next_rest_length_le (lead : UInt8) (rest : List UInt8) :
    (next lead rest).2.length ≤ rest.length := by
  unfold next
  split
  · exact Nat.le_refl _
  · exact follow_rest_length_le _ _ _ _ _

private def decodeLoop (input : List UInt8) (done : List Char) : Option (List Char) :=
  match input with
  | [] => some done.reverse
  | lead :: rest =>
      match (next lead rest).1 with
      | some char => decodeLoop (next lead rest).2 (char :: done)
      | none => none
termination_by input.length
decreasing_by
  exact Nat.lt_succ_of_le (next_rest_length_le lead rest)

/-- The text that the bytes encode, if they encode one. -/
def decode? (input : List UInt8) : Option (List Char) :=
  decodeLoop input []

/-- The string that the bytes encode, if they encode one. -/
def string? (input : List UInt8) : Option String :=
  (decode? input).map String.ofList

/-- The character written for bytes that cannot be read. -/
def replacement : Char := Char.ofNat 0xFFFD

private def lossyLoop (input : List UInt8) (done : List Char) : List Char :=
  match input with
  | [] => done.reverse
  | lead :: rest =>
      lossyLoop (next lead rest).2 ((next lead rest).1.getD replacement :: done)
termination_by input.length
decreasing_by
  exact Nat.lt_succ_of_le (next_rest_length_le lead rest)

/-- The text of the bytes, with `replacement` for each part that is no
encoding. -/
def decodeLossy (input : List UInt8) : List Char :=
  lossyLoop input []

private theorem decodeLoop_done (input : List UInt8) (done : List Char) :
    decodeLoop input done = (decodeLoop input []).map fun text => done.reverse ++ text := by
  match input with
  | [] => simp [decodeLoop]
  | lead :: rest =>
      rw [decodeLoop, decodeLoop]
      cases (next lead rest).1 with
      | none => rfl
      | some char =>
          simp only []
          rw [decodeLoop_done (next lead rest).2 (char :: done),
            decodeLoop_done (next lead rest).2 [char]]
          cases decodeLoop (next lead rest).2 [] <;> simp
termination_by input.length
decreasing_by
  all_goals exact Nat.lt_succ_of_le (next_rest_length_le lead rest)

private theorem lossyLoop_done (input : List UInt8) (done : List Char) :
    lossyLoop input done = done.reverse ++ lossyLoop input [] := by
  match input with
  | [] => simp [lossyLoop]
  | lead :: rest =>
      rw [lossyLoop, lossyLoop, lossyLoop_done (next lead rest).2 (_ :: done),
        lossyLoop_done (next lead rest).2 [_]]
      simp
termination_by input.length
decreasing_by
  all_goals exact Nat.lt_succ_of_le (next_rest_length_le lead rest)

@[simp] theorem decode?_nil : decode? [] = some [] := by
  rw [decode?, decodeLoop]
  rfl

@[simp] theorem decodeLossy_nil : decodeLossy [] = [] := by
  rw [decodeLossy, lossyLoop]
  rfl

/-- The first part has to be a character, and the rest of the text comes from the bytes
after it. -/
theorem decode?_cons (lead : UInt8) (rest : List UInt8) :
    decode? (lead :: rest) =
      (next lead rest).1.bind fun char => (decode? (next lead rest).2).map (char :: ·) := by
  rw [decode?, decodeLoop]
  cases (next lead rest).1 with
  | none => rfl
  | some char =>
      simp only [Option.bind_some]
      rw [decodeLoop_done]
      rfl

theorem decodeLossy_cons (lead : UInt8) (rest : List UInt8) :
    decodeLossy (lead :: rest) =
      (next lead rest).1.getD replacement :: decodeLossy (next lead rest).2 := by
  rw [decodeLossy, lossyLoop, lossyLoop_done]
  rfl

end CallPolicy.Text.Utf8
