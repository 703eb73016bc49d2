import CallPolicy.Text.Percent
import CallPolicy.Text.Utf8
import Mathlib.Data.List.Basic

/-!
Contract: percent escapes told from the characters of a text.

Owns:
- the escape at the start of a text, and the texts that spell bytes as escapes;
- the bytes that a text stands for, one character or one escape at a time;
- places inside an escape, and cuts that no escape reaches across.

Does not own: paths and their segments.
-/

namespace CallPolicy.Text

/-! ### Characters as bytes -/

namespace Utf8

@[simp] theorem encode_nil : encode [] = [] := rfl

@[simp] theorem encode_cons (char : Char) (rest : List Char) :
    encode (char :: rest) = String.utf8EncodeChar char ++ encode rest := by
  simp [encode]

theorem encodeChar_of_ascii {char : Char} (ascii : char.toNat < 0x80) :
    String.utf8EncodeChar char = [UInt8.ofNat char.toNat] := by
  have within : char.val.toNat ≤ 0x7F := Nat.le_of_lt_succ ascii
  exact if_pos within

/-- Every byte of a character outside ASCII is outside ASCII. -/
theorem high_of_mem_encodeChar {char : Char} (high : 0x80 ≤ char.toNat) {byte : UInt8}
    (member : byte ∈ String.utf8EncodeChar char) : 0x80 ≤ byte.toNat := by
  have beyond : ¬ char.val.toNat ≤ 0x7F := Nat.not_le_of_lt high
  unfold String.utf8EncodeChar at member
  simp only [if_neg beyond] at member
  split at member
  · simp only [List.mem_cons, List.not_mem_nil, or_false] at member
    rcases member with rfl | rfl <;> simp only [UInt8.toNat_ofNat'] <;> omega
  · split at member
    · simp only [List.mem_cons, List.not_mem_nil, or_false] at member
      rcases member with rfl | rfl | rfl <;> simp only [UInt8.toNat_ofNat'] <;> omega
    · simp only [List.mem_cons, List.not_mem_nil, or_false] at member
      rcases member with rfl | rfl | rfl | rfl <;> simp only [UInt8.toNat_ofNat'] <;> omega

theorem encodeChar_eq_cons_of_high {char : Char} (high : 0x80 ≤ char.toNat) :
    ∃ first others, String.utf8EncodeChar char = first :: others ∧ 0x80 ≤ first.toNat := by
  obtain ⟨first, others, encoded⟩ :=
    List.exists_cons_of_ne_nil (String.utf8EncodeChar_ne_nil (c := char))
  refine ⟨first, others, encoded, high_of_mem_encodeChar high ?_⟩
  rw [encoded]
  exact List.mem_cons_self

end Utf8

theorem Ascii.hexValue?_of_high {code : Nat} (high : 0x80 ≤ code) :
    Ascii.hexValue? code = none := by
  unfold Ascii.hexValue?
  rw [if_neg (by omega), if_neg (by omega), if_neg (by omega)]

namespace Percent

/-! ### Escapes at the start of a text -/

/-- The byte that two hexadecimal digits stand for, in either case. -/
def digits? (high low : Char) : Option UInt8 := do
  let first ← Ascii.hexValue? high.toNat
  let second ← Ascii.hexValue? low.toNat
  some (UInt8.ofNat (first * 16 + second))

/-- The byte that an escape at the start of a text stands for. -/
def escapeAt? : List Char → Option UInt8
  | mark :: high :: low :: _ => if mark = '%' then digits? high low else none
  | _ => none

/-- A text that spells bytes as escapes. -/
inductive Spells : List UInt8 → List Char → Prop where
  | nil : Spells [] []
  | cons {high low : Char} {byte : UInt8} (digits : digits? high low = some byte)
      {bytes : List UInt8} {text : List Char} (rest : Spells bytes text) :
      Spells (byte :: bytes) ('%' :: high :: low :: text)

/-- The bytes that a text stands for. -/
def octets (text : List Char) : List UInt8 :=
  decode (Utf8.encode text)

theorem escapeAt?_append {text : List Char} {byte : UInt8}
    (found : escapeAt? text = some byte) (more : List Char) :
    escapeAt? (text ++ more) = some byte := by
  match text, found with
  | _ :: _ :: _ :: _, found => exact found

theorem ascii_of_digits? {high low : Char} {byte : UInt8}
    (digits : digits? high low = some byte) : high.toNat < 0x80 ∧ low.toNat < 0x80 := by
  constructor
  · by_contra far
    simp [digits?, Ascii.hexValue?_of_high (Nat.le_of_not_lt far)] at digits
  · by_contra far
    simp [digits?, Ascii.hexValue?_of_high (Nat.le_of_not_lt far)] at digits

/-- What is neither a percent sign nor a digit stands in no spelling. -/
theorem Spells.not_mem {mark : Char} (noSign : mark ≠ '%')
    (noDigit : Ascii.hexValue? mark.toNat = none) {bytes : List UInt8} {text : List Char}
    (spelled : Spells bytes text) : mark ∉ text := by
  induction spelled with
  | nil => exact List.not_mem_nil
  | cons digits _ inductionHypothesis =>
      intro member
      simp only [List.mem_cons] at member
      rcases member with isSign | rfl | rfl | later
      · exact noSign isSign
      · simp [digits?, noDigit] at digits
      · simp [digits?, noDigit] at digits
      · exact inductionHypothesis later

theorem pair?_ofNat {high low : Char} (highAscii : high.toNat < 0x80)
    (lowAscii : low.toNat < 0x80) :
    pair? (UInt8.ofNat high.toNat) (UInt8.ofNat low.toNat) = digits? high low := by
  have highCode : (UInt8.ofNat high.toNat).toNat = high.toNat := by
    rw [UInt8.toNat_ofNat', Nat.mod_eq_of_lt (by omega)]
  have lowCode : (UInt8.ofNat low.toNat).toNat = low.toNat := by
    rw [UInt8.toNat_ofNat', Nat.mod_eq_of_lt (by omega)]
  rw [pair?, highCode, lowCode, digits?]

theorem escape?_of_high {high : UInt8} (far : 0x80 ≤ high.toNat) (rest : List UInt8) :
    escape? sign (high :: rest) = none := by
  cases rest with
  | nil => rfl
  | cons low rest => simp [escape?, pair?, Ascii.hexValue?_of_high far]

theorem escapeAt?_of_high {high : Char} (far : 0x80 ≤ high.toNat) (rest : List Char) :
    escapeAt? ('%' :: high :: rest) = none := by
  cases rest with
  | nil => rfl
  | cons low rest => simp [escapeAt?, digits?, Ascii.hexValue?_of_high far]

/-- After a percent sign the bytes of a text show an escape exactly when its characters
do. -/
theorem escape?_encode (text : List Char) :
    escape? sign (Utf8.encode text) = escapeAt? ('%' :: text) := by
  match text with
  | [] => rfl
  | high :: rest =>
      by_cases highAscii : high.toNat < 0x80
      · rw [Utf8.encode_cons, Utf8.encodeChar_of_ascii highAscii, List.singleton_append]
        match rest with
        | [] => rfl
        | low :: others =>
            by_cases lowAscii : low.toNat < 0x80
            · rw [Utf8.encode_cons, Utf8.encodeChar_of_ascii lowAscii, List.singleton_append]
              exact pair?_ofNat highAscii lowAscii
            · have far := Nat.le_of_not_lt lowAscii
              obtain ⟨first, more, encoded, firstFar⟩ := Utf8.encodeChar_eq_cons_of_high far
              rw [Utf8.encode_cons, encoded, List.cons_append]
              simp [escape?, escapeAt?, pair?, digits?, Ascii.hexValue?_of_high far,
                Ascii.hexValue?_of_high firstFar]
      · have far := Nat.le_of_not_lt highAscii
        obtain ⟨first, more, encoded, firstFar⟩ := Utf8.encodeChar_eq_cons_of_high far
        rw [Utf8.encode_cons, encoded, List.cons_append, escape?_of_high firstFar,
          escapeAt?_of_high far]

/-! ### One character or one escape at a time -/

/-- An escape stands for one byte. -/
theorem octets_escape {high low : Char} {byte : UInt8} (digits : digits? high low = some byte)
    (rest : List Char) : octets ('%' :: high :: low :: rest) = byte :: octets rest := by
  obtain ⟨highAscii, lowAscii⟩ := ascii_of_digits? digits
  have decoded : pair? (UInt8.ofNat high.toNat) (UInt8.ofNat low.toNat) = some byte := by
    rw [pair?_ofNat highAscii lowAscii, digits]
  have percent : String.utf8EncodeChar '%' = [sign] := by decide
  simp only [octets, Utf8.encode_cons, percent, Utf8.encodeChar_of_ascii highAscii,
    Utf8.encodeChar_of_ascii lowAscii, List.singleton_append]
  exact decode_escape decoded _

theorem decode_append_of_no_sign {bytes : List UInt8} (plain : ∀ byte ∈ bytes, byte ≠ sign)
    (rest : List UInt8) : decode (bytes ++ rest) = bytes ++ decode rest := by
  induction bytes with
  | nil => rfl
  | cons byte bytes inductionHypothesis =>
      obtain ⟨notSign, others⟩ := List.forall_mem_cons.mp plain
      have noEscape : escape? byte (bytes ++ rest) = none := by
        unfold escape?
        split
        · rw [if_neg notSign]
        · rfl
      rw [List.cons_append, decode_cons noEscape, inductionHypothesis others, List.cons_append]

/-- A character that begins no escape stands for its own bytes. -/
theorem octets_cons {char : Char} {rest : List Char} (plain : escapeAt? (char :: rest) = none) :
    octets (char :: rest) = String.utf8EncodeChar char ++ octets rest := by
  rw [octets, Utf8.encode_cons]
  by_cases isSign : char = '%'
  · subst isSign
    have percent : String.utf8EncodeChar '%' = [sign] := by decide
    rw [← escape?_encode] at plain
    rw [percent, List.singleton_append, List.singleton_append, decode_cons plain, octets]
  · refine decode_append_of_no_sign (fun byte member same => isSign ?_) _
    subst same
    by_cases ascii : char.toNat < 0x80
    · rw [Utf8.encodeChar_of_ascii ascii, List.mem_singleton] at member
      have code := congrArg UInt8.toNat member
      rw [UInt8.toNat_ofNat', Nat.mod_eq_of_lt (by omega)] at code
      exact Char.toNat_inj.mp code.symm
    · have far := Utf8.high_of_mem_encodeChar (Nat.le_of_not_lt ascii) member
      exact absurd far (by decide)

/-- A text that spells bytes stands for them. -/
theorem octets_spells {bytes : List UInt8} {text : List Char} (spelled : Spells bytes text)
    (rest : List Char) : octets (text ++ rest) = bytes ++ octets rest := by
  induction spelled with
  | nil => rfl
  | cons digits _ inductionHypothesis =>
      rw [List.cons_append, List.cons_append, List.cons_append, octets_escape digits,
        inductionHypothesis, List.cons_append]

/-! ### Cuts -/

/-- No escape reaches from the end of a text into what follows it. -/
def Apart : List Char → List Char → Prop
  | [], _ => True
  | char :: rest, after =>
      (rest.length < 2 → escapeAt? (char :: (rest ++ after)) = none) ∧ Apart rest after

/-- Texts that no escape joins stand for the bytes of one after those of the other. -/
theorem octets_append {before after : List Char} (apart : Apart before after) :
    octets (before ++ after) = octets before ++ octets after := by
  -- An escape takes three characters at once, so the recursion is on the length.
  match before, apart with
  | [], _ => rfl
  | char :: rest, apart =>
      cases found : escapeAt? (char :: rest) with
      | none =>
          have plain : escapeAt? (char :: (rest ++ after)) = none := by
            match rest, found, apart.1 with
            | [], _, short => exact short (by decide)
            | [_], _, short => exact short (by simp)
            | _ :: _ :: _, found, _ => exact found
          rw [List.cons_append, octets_cons plain, octets_cons found, octets_append apart.2,
            List.append_assoc]
      | some byte =>
          match rest, found, apart with
          | high :: low :: others, found, apart =>
              by_cases isSign : char = '%'
              · subst isSign
                have digits : digits? high low = some byte := by simpa [escapeAt?] using found
                rw [List.cons_append, List.cons_append, List.cons_append,
                  octets_escape digits, octets_escape digits, octets_append apart.2.2.2,
                  List.cons_append]
              · simp [escapeAt?, isSign] at found
termination_by before.length

/-- No escape reaches into a percent sign. -/
theorem apart_sign (before after : List Char) : Apart before ('%' :: after) := by
  induction before with
  | nil => trivial
  | cons char rest inductionHypothesis =>
      refine ⟨fun short => ?_, inductionHypothesis⟩
      have noDigit : Ascii.hexValue? 0x25 = none := by decide
      match rest, short with
      | [], _ => cases after <;> simp [escapeAt?, digits?, noDigit]
      | [second], _ => cases found : Ascii.hexValue? second.toNat <;>
          simp [escapeAt?, digits?, noDigit, found]

/-- The place after a text lies inside an escape that begins there or at most two
characters before. -/
def InsideEscape (before after : List Char) : Prop :=
  ∃ back < 3, back ≤ before.length ∧
    (escapeAt? ((before ++ after).drop (before.length - back))).isSome = true

instance (before after : List Char) : Decidable (InsideEscape before after) := by
  unfold InsideEscape
  infer_instance

theorem escapeAt?_of_outside {start near after stop : List Char}
    (outside : ¬ InsideEscape (start ++ near) (after ++ stop)) : escapeAt? after = none := by
  cases found : escapeAt? after with
  | none => rfl
  | some byte =>
      refine absurd ⟨0, by decide, Nat.zero_le _, ?_⟩ outside
      rw [Nat.sub_zero, List.drop_left, escapeAt?_append found]
      rfl

theorem apart_of_outside {start near after stop : List Char}
    (outside : ¬ InsideEscape (start ++ near) (after ++ stop)) : Apart near after := by
  induction near generalizing start with
  | nil => trivial
  | cons char rest inductionHypothesis =>
      have moved : ¬ InsideEscape ((start ++ [char]) ++ rest) (after ++ stop) := by
        simpa using outside
      refine ⟨fun short => ?_, inductionHypothesis moved⟩
      · cases found : escapeAt? (char :: (rest ++ after)) with
        | none => rfl
        | some byte =>
            refine absurd ⟨rest.length + 1, by omega, by simp, ?_⟩ outside
            have place : (start ++ char :: rest).length - (rest.length + 1) = start.length := by
              simp
            have inside := escapeAt?_append found stop
            rw [place, List.append_assoc, List.drop_left]
            simpa using congrArg Option.isSome inside

end Percent

end CallPolicy.Text
