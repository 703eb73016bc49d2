import CallPolicy.Proofs.ByteOrder
import CallPolicy.Proofs.Escapes

/-!
Contract: reading bytes as text undoes writing text as bytes.

Owns:
- what a first byte announces, and the one character that is read from the bytes of a
  character;
- that bytes are read as a text exactly when they are its bytes;
- the bytes of joined texts, and the characters of ASCII among them;
- that reading with replacements gives the same text where there is one, and shows a
  replacement where there is none.

Does not own: percent escapes.
-/

namespace CallPolicy.Text.Utf8

/-! ### One character -/

/-- A code point has one encoding. -/
theorem Encodes.unique {code : Nat} {left right : List UInt8} (leftEncoded : Encodes code left)
    (rightEncoded : Encodes code right) : left = right := by
  cases leftEncoded <;> cases rightEncoded <;>
    simp only [List.cons.injEq, and_true, reduceCtorEq, and_false, ← UInt8.toNat_inj,
      UInt8.toNat_ofNat'] <;>
    omega

/-- What a first byte announces. The bounds of the byte after it keep the code points to
those that need this many bytes and are characters. -/
inductive Announces (byte : Nat) : Lead → Prop where
  | none (high : byte < 0x80) : Announces byte ⟨0, 0x80, 0xBF, byte⟩
  | one (low : 0xC2 ≤ byte) (high : byte < 0xE0) : Announces byte ⟨1, 0x80, 0xBF, byte - 0xC0⟩
  | two (low : 0xE0 ≤ byte) (high : byte < 0xF0) :
      Announces byte ⟨2, if byte = 0xE0 then 0xA0 else 0x80,
        if byte = 0xED then 0x9F else 0xBF, byte - 0xE0⟩
  | three (low : 0xF0 ≤ byte) (high : byte < 0xF5) :
      Announces byte ⟨3, if byte = 0xF0 then 0x90 else 0x80,
        if byte = 0xF4 then 0x8F else 0xBF, byte - 0xF0⟩

theorem ofByte?_eq_some_iff {byte : UInt8} {shape : Lead} :
    Lead.ofByte? byte = some shape ↔ Announces byte.toNat shape := by
  have table : ∀ code < 0x100, Lead.ofByte? (UInt8.ofNat code) =
      if code < 0x80 then some ⟨0, 0x80, 0xBF, code⟩
      else if code < 0xC2 then none
      else if code < 0xE0 then some ⟨1, 0x80, 0xBF, code - 0xC0⟩
      else if code < 0xF0 then some ⟨2, if code = 0xE0 then 0xA0 else 0x80,
        if code = 0xED then 0x9F else 0xBF, code - 0xE0⟩
      else if code < 0xF5 then some ⟨3, if code = 0xF0 then 0x90 else 0x80,
        if code = 0xF4 then 0x8F else 0xBF, code - 0xF0⟩
      else none := by
    decide +kernel
  have entry := table byte.toNat byte.toNat_lt
  rw [UInt8.ofNat_toNat] at entry
  rw [entry]
  constructor
  · intro found
    split at found
    · cases found
      exact .none (by assumption)
    · split at found
      · cases found
      · split at found
        · cases found
          exact .one (by omega) (by omega)
        · split at found
          · cases found
            exact .two (by omega) (by omega)
          · split at found
            · cases found
              exact .three (by omega) (by omega)
            · cases found
  · intro announces
    cases announces with
    | none high => exact if_pos high
    | one low high => rw [if_neg (by omega), if_neg (by omega), if_pos high]
    | two low high => rw [if_neg (by omega), if_neg (by omega), if_neg (by omega), if_pos high]
    | three low high =>
        rw [if_neg (by omega), if_neg (by omega), if_neg (by omega), if_neg (by omega), if_pos high]

theorem tail_bounds : 0x80 ≤ UInt8.toNat 0x80 ∧ UInt8.toNat 0xBF < 0xC0 := by decide

theorem Announces.bounds {byte : Nat} {shape : Lead} (announces : Announces byte shape) :
    0x80 ≤ shape.low.toNat ∧ shape.high.toNat < 0xC0 := by
  cases announces with
  | none _ | one _ _ => exact tail_bounds
  | two _ _ | three _ _ =>
      simp only [apply_ite UInt8.toNat, UInt8.reduceToNat]
      split_ifs <;> omega

theorem toNat_ofNat_of_lt {code : Nat} (byte : code < 0x100) : (UInt8.ofNat code).toNat = code := by
  rw [UInt8.toNat_ofNat', Nat.mod_eq_of_lt byte]

/-- A byte within the bounds adds its six bits. -/
theorem follow_digit {more digit bits : Nat} {low high : UInt8} {rest : List UInt8}
    (below : digit < 64) (lowest : low.toNat ≤ digit + 0x80) (highest : digit + 0x80 ≤ high.toNat) :
    follow (more + 1) low high bits (UInt8.ofNat (digit + 0x80) :: rest) =
      follow more 0x80 0xBF (bits * 64 + digit) rest := by
  have byte : (UInt8.ofNat (digit + 0x80)).toNat = digit + 0x80 := toNat_ofNat_of_lt (by omega)
  have six : (digit + 0x80) % 0x40 = digit := by omega
  have within : low ≤ UInt8.ofNat (digit + 0x80) ∧ UInt8.ofNat (digit + 0x80) ≤ high := by
    rw [UInt8.le_iff_toNat_le, UInt8.le_iff_toNat_le, byte]
    exact ⟨lowest, highest⟩
  rw [follow, if_pos within, byte, six]

theorem exists_of_follow {more : Nat} {low high : UInt8} {bits code : Nat} {rest left : List UInt8}
    (within : 0x80 ≤ low.toNat ∧ high.toNat < 0xC0)
    (followed : follow (more + 1) low high bits rest = (some code, left)) :
    ∃ digit others, rest = UInt8.ofNat (digit + 0x80) :: others ∧ digit < 64 ∧
      (low.toNat ≤ digit + 0x80 ∧ digit + 0x80 ≤ high.toNat) ∧
        follow more 0x80 0xBF (bits * 64 + digit) others = (some code, left) := by
  cases rest with
  | nil => cases followed
  | cons byte others =>
      unfold follow at followed
      split at followed
      · rename_i bounds
        rw [UInt8.le_iff_toNat_le, UInt8.le_iff_toNat_le] at bounds
        have digit : byte.toNat - 0x80 + 0x80 = byte.toNat := by omega
        have six : byte.toNat % 0x40 = byte.toNat - 0x80 := by omega
        refine ⟨byte.toNat - 0x80, others, ?_, by omega, by omega, six ▸ followed⟩
        rw [digit, UInt8.ofNat_toNat]
      · cases followed

theorem next_of_announces {lead : UInt8} {shape : Lead} {char : Char} {rest left : List UInt8}
    (announces : Announces lead.toNat shape)
    (followed : follow shape.more shape.low shape.high shape.bits rest =
      (some char.toNat, left)) :
    next lead rest = (some char, left) := by
  rw [next, ofByte?_eq_some_iff.mpr announces]
  simp only [followed, Option.map_some, Char.ofNat_toNat]

theorem exists_of_next {lead : UInt8} {char : Char} {rest left : List UInt8}
    (read : next lead rest = (some char, left)) :
    ∃ shape code, Announces lead.toNat shape ∧
      follow shape.more shape.low shape.high shape.bits rest = (some code, left) ∧
        Char.ofNat code = char := by
  unfold next at read
  cases found : Lead.ofByte? lead with
  | none => simp [found] at read
  | some shape =>
      simp only [found, Prod.mk.injEq, Option.map_eq_some_iff] at read
      obtain ⟨⟨code, followed, isChar⟩, rfl⟩ := read
      exact ⟨shape, code, ofByte?_eq_some_iff.mp found, Prod.ext followed rfl, isChar⟩

/-- The bytes of a character are read as that character. -/
theorem next_of_encodes {char : Char} {bytes : List UInt8} (encodes : Encodes char.toNat bytes) :
    ∃ lead others, bytes = lead :: others ∧
      ∀ rest, next lead (others ++ rest) = (some char, rest) := by
  have valid : char.toNat < 0xD800 ∨ 0xDFFF < char.toNat := char.valid.imp id And.left
  cases encodes with
  | one high =>
      have announces : Announces (UInt8.ofNat char.toNat).toNat ⟨0, 0x80, 0xBF, char.toNat⟩ := by
        rw [toNat_ofNat_of_lt (by omega)]
        exact .none high
      exact ⟨_, [], rfl, fun rest => next_of_announces announces rfl⟩
  | two first second digits below low high =>
      refine ⟨_, [_], rfl, fun rest => ?_⟩
      apply next_of_announces
      · rw [toNat_ofNat_of_lt (by omega)]
        exact .one (by omega) (by omega)
      · simp only [List.cons_append, List.nil_append, Nat.add_sub_cancel]
        rw [follow_digit below _ _, follow, digits]
        all_goals simp only [UInt8.reduceToNat]; omega
  | three first second third digits below low high =>
      refine ⟨_, [_, _], rfl, fun rest => ?_⟩
      apply next_of_announces
      · rw [toNat_ofNat_of_lt (by omega)]
        exact .two (by omega) (by omega)
      · simp only [List.cons_append, List.nil_append, Nat.add_sub_cancel]
        rw [follow_digit below.1, follow_digit below.2, follow, digits]
        all_goals (try split) <;> simp only [UInt8.reduceToNat] <;> omega
  | four first second third fourth digits below low high =>
      refine ⟨_, [_, _, _], rfl, fun rest => ?_⟩
      apply next_of_announces
      · rw [toNat_ofNat_of_lt (by omega)]
        exact .three (by omega) (by omega)
      · simp only [List.cons_append, List.nil_append, Nat.add_sub_cancel]
        rw [follow_digit below.1, follow_digit below.2.1, follow_digit below.2.2, follow, digits]
        all_goals (try split) <;> simp only [UInt8.reduceToNat] <;> omega

theorem ofNat_lead {lead : UInt8} {base : Nat} (low : base ≤ lead.toNat) :
    UInt8.ofNat (lead.toNat - base + base) = lead := by
  rw [Nat.sub_add_cancel low, UInt8.ofNat_toNat]

/-- A character is read from nothing but its bytes. -/
theorem exists_encodes_of_next {lead : UInt8} {char : Char} {rest left : List UInt8}
    (read : next lead rest = (some char, left)) :
    ∃ bytes, Encodes char.toNat bytes ∧ lead :: rest = bytes ++ left := by
  obtain ⟨shape, code, announces, followed, rfl⟩ := exists_of_next read
  have toNat_ofNat (valid : code.isValidChar) : (Char.ofNat code).toNat = code := by
    rw [Char.ofNat, dif_pos valid]
    rfl
  have first := announces.bounds
  cases announces with
  | none high =>
      simp only [follow, Prod.mk.injEq, Option.some.injEq] at followed
      obtain ⟨rfl, rfl⟩ := followed
      rw [toNat_ofNat (Or.inl (by omega))]
      refine ⟨_, .one high, ?_⟩
      rw [UInt8.ofNat_toNat, List.singleton_append]
  | one low high =>
      obtain ⟨second, others, rfl, below, _, followed⟩ := exists_of_follow first followed
      simp only [follow, Prod.mk.injEq, Option.some.injEq] at followed
      obtain ⟨isCode, rfl⟩ := followed
      rw [toNat_ofNat (Or.inl (by omega))]
      refine ⟨_, .two (lead.toNat - 0xC0) second isCode.symm below (by omega) (by omega), ?_⟩
      rw [ofNat_lead (by omega)]
      rfl
  | two low high =>
      obtain ⟨second, others, rfl, below, bounds, followed⟩ := exists_of_follow first followed
      obtain ⟨third, others, rfl, belowNext, _, followed⟩ := exists_of_follow tail_bounds followed
      simp only [follow, Prod.mk.injEq, Option.some.injEq] at followed
      obtain ⟨isCode, rfl⟩ := followed
      simp only [apply_ite UInt8.toNat, UInt8.reduceToNat] at bounds
      have valid : 0x800 ≤ code ∧ code < 0x10000 ∧ code.isValidChar := by
        unfold Nat.isValidChar
        split_ifs at bounds <;> omega
      rw [toNat_ofNat valid.2.2]
      refine ⟨_, .three (lead.toNat - 0xE0) second third isCode.symm ⟨below, belowNext⟩ valid.1
        valid.2.1, ?_⟩
      rw [ofNat_lead (by omega)]
      rfl
  | three low high =>
      obtain ⟨second, others, rfl, below, bounds, followed⟩ := exists_of_follow first followed
      obtain ⟨third, others, rfl, belowNext, _, followed⟩ := exists_of_follow tail_bounds followed
      obtain ⟨fourth, others, rfl, belowLast, _, followed⟩ := exists_of_follow tail_bounds followed
      simp only [follow, Prod.mk.injEq, Option.some.injEq] at followed
      obtain ⟨isCode, rfl⟩ := followed
      simp only [apply_ite UInt8.toNat, UInt8.reduceToNat] at bounds
      have valid : 0x10000 ≤ code ∧ code < 0x110000 ∧ code.isValidChar := by
        unfold Nat.isValidChar
        split_ifs at bounds <;> omega
      rw [toNat_ofNat valid.2.2]
      refine ⟨_, .four (lead.toNat - 0xF0) second third fourth isCode.symm
        ⟨below, belowNext, belowLast⟩ valid.1 valid.2.1, ?_⟩
      rw [ofNat_lead (by omega)]
      rfl

theorem next_encodeChar (char : Char) (rest : List UInt8) :
    ∃ lead others, String.utf8EncodeChar char ++ rest = lead :: others ∧
      next lead others = (some char, rest) := by
  obtain ⟨lead, others, encoded, read⟩ := next_of_encodes (encodes_encodeChar char)
  exact ⟨lead, others ++ rest, by rw [encoded, List.cons_append], read rest⟩

theorem encodeChar_of_next {lead : UInt8} {char : Char} {rest left : List UInt8}
    (read : next lead rest = (some char, left)) :
    lead :: rest = String.utf8EncodeChar char ++ left := by
  obtain ⟨bytes, encodes, cut⟩ := exists_encodes_of_next read
  rw [cut, encodes.unique (encodes_encodeChar char)]

/-! ### Whole texts -/

/-- The bytes are those of a text. -/
def IsText (bytes : List UInt8) : Prop :=
  ∃ text, encode text = bytes

/-- What is read follows the first part of the bytes to the bytes after it. -/
theorem bytes_induction {motive : List UInt8 → Prop} (nil : motive [])
    (cons : ∀ lead rest, motive (next lead rest).2 → motive (lead :: rest)) :
    ∀ bytes, motive bytes
  | [] => nil
  | lead :: rest => cons lead rest (bytes_induction nil cons (next lead rest).2)
termination_by bytes => bytes.length
decreasing_by
  exact Nat.lt_succ_of_le (next_rest_length_le lead rest)

@[simp] theorem decode?_encode (text : List Char) : decode? (encode text) = some text := by
  induction text with
  | nil => exact decode?_nil
  | cons char rest inductionHypothesis =>
      obtain ⟨lead, others, bytes, read⟩ := next_encodeChar char (encode rest)
      rw [encode_cons, bytes, decode?_cons, read]
      simp [inductionHypothesis]

theorem encode_of_decode? {bytes : List UInt8} {text : List Char}
    (read : decode? bytes = some text) : encode text = bytes := by
  induction bytes using bytes_induction generalizing text with
  | nil =>
      rw [decode?_nil] at read
      cases read
      rfl
  | cons lead rest inductionHypothesis =>
      rw [decode?_cons] at read
      obtain ⟨char, isFirst, others⟩ := Option.bind_eq_some_iff.mp read
      obtain ⟨later, isLater, rfl⟩ := Option.map_eq_some_iff.mp others
      rw [encode_cons, inductionHypothesis isLater, ← encodeChar_of_next (Prod.ext isFirst rfl)]

theorem decode?_eq_some_iff {bytes : List UInt8} {text : List Char} :
    decode? bytes = some text ↔ encode text = bytes :=
  ⟨encode_of_decode?, fun encoded => encoded ▸ decode?_encode text⟩

theorem isSome_decode?_iff {bytes : List UInt8} : (decode? bytes).isSome = true ↔ IsText bytes := by
  rw [Option.isSome_iff_exists]
  exact exists_congr fun text => decode?_eq_some_iff

instance (bytes : List UInt8) : Decidable (IsText bytes) :=
  decidable_of_iff _ isSome_decode?_iff

/-! ### Joined texts -/

theorem encode_append (left right : List Char) :
    encode (left ++ right) = encode left ++ encode right :=
  List.flatMap_append

theorem encode_cons_of_ascii {char : Char} (ascii : char.toNat < 0x80) (rest : List Char) :
    encode (char :: rest) = UInt8.ofNat char.toNat :: encode rest := by
  rw [encode_cons, encodeChar_of_ascii ascii, List.singleton_append]

/-- A byte of ASCII among the bytes of a text is one of its characters. -/
theorem mem_of_mem_encode {mark : Char} (ascii : mark.toNat < 0x80) {text : List Char}
    (member : UInt8.ofNat mark.toNat ∈ encode text) : mark ∈ text := by
  obtain ⟨char, isChar, inChar⟩ := List.mem_flatMap.mp member
  have byte : (UInt8.ofNat mark.toNat).toNat = mark.toNat := toNat_ofNat_of_lt (by omega)
  by_cases charAscii : char.toNat < 0x80
  · rw [encodeChar_of_ascii charAscii, List.mem_singleton, ← UInt8.toNat_inj, byte,
      toNat_ofNat_of_lt (by omega)] at inChar
    rwa [Char.toNat_inj.mp inChar]
  · have high := high_of_mem_encodeChar (Nat.le_of_not_lt charAscii) inChar
    omega

theorem encode_intercalate {mark : Char} (ascii : mark.toNat < 0x80)
    (pieces : List (List Char)) :
    encode ([mark].intercalate pieces) =
      [UInt8.ofNat mark.toNat].intercalate (pieces.map encode) := by
  induction pieces with
  | nil => rfl
  | cons piece rest inductionHypothesis =>
      cases rest with
      | nil => simp
      | cons next others =>
          rw [List.intercalate_cons_cons, encode_append, encode_append, inductionHypothesis,
            encode_cons_of_ascii ascii, encode_nil]
          simp only [List.map_cons, List.intercalate_cons_cons]

/-! ### Replacements -/

theorem decodeLossy_encode (text : List Char) : decodeLossy (encode text) = text := by
  induction text with
  | nil => exact decodeLossy_nil
  | cons char rest inductionHypothesis =>
      obtain ⟨lead, others, bytes, read⟩ := next_encodeChar char (encode rest)
      rw [encode_cons, bytes, decodeLossy_cons, read, inductionHypothesis]
      rfl

theorem encode_decodeLossy_of_no_replacement {bytes : List UInt8}
    (clean : replacement ∉ decodeLossy bytes) : encode (decodeLossy bytes) = bytes := by
  induction bytes using bytes_induction with
  | nil => rw [decodeLossy_nil, encode_nil]
  | cons lead rest inductionHypothesis =>
      rw [decodeLossy_cons] at clean ⊢
      rw [List.mem_cons, not_or] at clean
      cases found : (next lead rest).1 with
      | none => exact absurd (by rw [found]; rfl) clean.1
      | some char =>
          rw [encode_cons, inductionHypothesis clean.2, Option.getD_some,
            ← encodeChar_of_next (Prod.ext found rfl)]

theorem encode_decodeLossy_iff {bytes : List UInt8} :
    encode (decodeLossy bytes) = bytes ↔ IsText bytes := by
  constructor
  · exact fun exact => ⟨_, exact⟩
  · rintro ⟨text, rfl⟩
    rw [decodeLossy_encode]

end CallPolicy.Text.Utf8
