import CallPolicy.Proofs.Cleaning
import CallPolicy.Proofs.FormData

/-!
Contract: form data that is written in any way is read as the fields that were written.

Owns:
- the ways of writing a character, a name or a value, a field and a whole form;
- what written parts stand for, and the separators that they are free of;
- reading of written forms.

Does not own: exactly which data is refused.

## Why what follows is arbitrary

An escape takes bytes that stand after its percent sign. A part is therefore described by
what it does before any bytes: parts that stand for bytes in this sense can be joined, and
no escape reaches from one into the next.
-/

namespace CallPolicy

namespace Text

universe u

theorem cutAt_append {α : Type u} [DecidableEq α] {separator : α} {before : List α}
    (free : separator ∉ before) (after : List α) :
    cutAt separator (before ++ separator :: after) = some (before, after) := by
  induction before with
  | nil => exact cutAt_cons_separator separator after
  | cons item rest inductionHypothesis =>
      rw [List.mem_cons, not_or] at free
      rw [List.cons_append, cutAt_cons_other (Ne.symm free.1), inductionHypothesis free.2]
      rfl

/-! ### Escapes before any bytes -/

namespace Percent

theorem isDigit_of_pair? {high low byte : UInt8} (digits : pair? high low = some byte) :
    IsDigit high ∧ IsDigit low :=
  isSome_pair?_iff.mp (by rw [digits]; rfl)

theorem wellFormed_cons {byte : UInt8} (notSign : byte ≠ sign) (rest : List UInt8) :
    wellFormed (byte :: rest) = wellFormed rest := by
  simp [wellFormed, notSign]

theorem wellFormed_escape {high low byte : UInt8} (digits : pair? high low = some byte)
    (rest : List UInt8) : wellFormed (sign :: high :: low :: rest) = wellFormed rest := by
  have noDigit : ¬ IsDigit sign := by decide
  have highPlain : high ≠ sign := fun same => noDigit (same ▸ (isDigit_of_pair? digits).1)
  have lowPlain : low ≠ sign := fun same => noDigit (same ▸ (isDigit_of_pair? digits).2)
  have begun : (escape? sign (high :: low :: rest)).isSome = true := by
    simp [escape?, digits]
  rw [wellFormed, begun, Bool.or_true, Bool.true_and, wellFormed_cons highPlain,
    wellFormed_cons lowPlain]

theorem wellFormed_append_of_no_sign {bytes : List UInt8} (plain : ∀ byte ∈ bytes, byte ≠ sign)
    (rest : List UInt8) : wellFormed (bytes ++ rest) = wellFormed rest := by
  induction bytes with
  | nil => rfl
  | cons byte bytes inductionHypothesis =>
      obtain ⟨notSign, others⟩ := List.forall_mem_cons.mp plain
      rw [List.cons_append, wellFormed_cons notSign, inductionHypothesis others]

end Percent

end Text

namespace Form

open Text

/-! ### Ways of writing -/

/-- The characters that mean something else where a value stands. -/
def valueMarks : List Char := ['&', '+', '%', ' ']

/-- The characters that mean something else where a name stands. -/
def nameMarks : List Char := '=' :: valueMarks

/-- A way of writing one character: as it is, as a plus for a space, or as the escapes of
all its bytes. -/
inductive WritesChar (marks : List Char) : Char → List Char → Prop where
  | literal {char : Char} (unmarked : char ∉ marks) : WritesChar marks char [char]
  | plus : WritesChar marks ' ' ['+']
  | escaped {char : Char} {text : List Char}
      (spelled : Percent.Spells (String.utf8EncodeChar char) text) : WritesChar marks char text

/-- A way of writing a text, character by character. -/
inductive Writes (marks : List Char) : List Char → List Char → Prop where
  | nil : Writes marks [] []
  | cons {char : Char} {rest first others : List Char} (written : WritesChar marks char first)
      (later : Writes marks rest others) : Writes marks (char :: rest) (first ++ others)

/-- A way of writing a field. -/
inductive WritesField : String × String → List Char → Prop where
  | intro {name value : String} {nameText valueText : List Char}
      (nameWritten : Writes nameMarks name.toList nameText)
      (valueWritten : Writes valueMarks value.toList valueText) :
      WritesField (name, value) (nameText ++ '=' :: valueText)

/-- A way of writing a form: its fields one after another, joined by ampersands. -/
def WritesForm (fields : List (String × String)) (text : List Char) : Prop :=
  ∃ pieces, List.Forall₂ WritesField fields pieces ∧ text = ['&'].intercalate pieces

/-! ### What written parts stand for -/

/-- Before any bytes the written text is decoded to bytes of its own, and it breaks off no
escape. -/
structure StandsFor (written : List Char) (bytes : List UInt8) : Prop where
  octets : ∀ rest, Form.octets (Utf8.encode written ++ rest) = bytes ++ Form.octets rest
  unbroken : ∀ rest, Percent.wellFormed (Utf8.encode written ++ rest) = Percent.wellFormed rest

theorem octets_append_of_plain {bytes : List UInt8}
    (plain : ∀ byte ∈ bytes, byte ≠ Percent.sign ∧ byte ≠ plus) (rest : List UInt8) :
    octets (bytes ++ rest) = bytes ++ octets rest := by
  have kept : (bytes.map fun byte => if byte = plus then 0x20 else byte) = bytes := by
    conv_rhs => rw [← List.map_id bytes]
    exact List.map_congr_left fun byte member => if_neg (plain byte member).2
  rw [octets, List.map_append, kept,
    Percent.decode_append_of_no_sign fun byte member => (plain byte member).1]
  rfl

theorem octets_escape {high low byte : UInt8} (digits : Percent.pair? high low = some byte)
    (rest : List UInt8) :
    octets (Percent.sign :: high :: low :: rest) = byte :: octets rest := by
  have noDigit : ¬ Percent.IsDigit plus := by decide
  have isSign : Percent.sign ≠ plus := by decide
  have highPlain : high ≠ plus := fun same =>
    noDigit (same ▸ (Percent.isDigit_of_pair? digits).1)
  have lowPlain : low ≠ plus := fun same =>
    noDigit (same ▸ (Percent.isDigit_of_pair? digits).2)
  simp only [octets, List.map_cons, if_neg isSign, if_neg highPlain, if_neg lowPlain]
  exact Percent.decode_escape digits _

namespace StandsFor

theorem nil : StandsFor [] [] := ⟨fun _ => rfl, fun _ => rfl⟩

theorem append {written more : List Char} {bytes others : List UInt8}
    (first : StandsFor written bytes) (later : StandsFor more others) :
    StandsFor (written ++ more) (bytes ++ others) where
  octets rest := by
    rw [Utf8.encode_append, List.append_assoc, List.append_assoc, first.octets, later.octets]
  unbroken rest := by
    rw [Utf8.encode_append, List.append_assoc, first.unbroken, later.unbroken]

theorem literal {char : Char} (noSign : char ≠ '%') (noPlus : char ≠ '+') :
    StandsFor [char] (Utf8.encode [char]) := by
  have notSign : ∀ byte ∈ Utf8.encode [char], byte ≠ Percent.sign := by
    rintro byte member rfl
    have isSign : '%' ∈ [char] := Utf8.mem_of_mem_encode (by decide) member
    exact noSign (List.mem_singleton.mp isSign).symm
  have notPlus : ∀ byte ∈ Utf8.encode [char], byte ≠ Form.plus := by
    rintro byte member rfl
    have isPlus : '+' ∈ [char] := Utf8.mem_of_mem_encode (by decide) member
    exact noPlus (List.mem_singleton.mp isPlus).symm
  constructor
  · exact octets_append_of_plain fun byte member => ⟨notSign byte member, notPlus byte member⟩
  · exact Percent.wellFormed_append_of_no_sign notSign

theorem space : StandsFor ['+'] (Utf8.encode [' ']) where
  octets rest := by
    have noSign : ∀ byte ∈ [(0x20 : UInt8)], byte ≠ Percent.sign :=
      List.forall_mem_singleton.mpr (by decide)
    show Percent.decode ([0x20] ++ rest.map fun byte => if byte = Form.plus then 0x20 else byte) = _
    exact Percent.decode_append_of_no_sign noSign _
  unbroken rest := by
    show Percent.wellFormed (Form.plus :: rest) = Percent.wellFormed rest
    exact Percent.wellFormed_cons (by decide) rest

theorem escape {high low : Char} {byte : UInt8} (digits : Percent.digits? high low = some byte) :
    StandsFor ['%', high, low] [byte] := by
  obtain ⟨highAscii, lowAscii⟩ := Percent.ascii_of_digits? digits
  have pair : Percent.pair? (UInt8.ofNat high.toNat) (UInt8.ofNat low.toNat) = some byte := by
    rw [Percent.pair?_ofNat highAscii lowAscii, digits]
  have bytes : Utf8.encode ['%', high, low] =
      [Percent.sign, UInt8.ofNat high.toNat, UInt8.ofNat low.toNat] := by
    rw [Utf8.encode_cons_of_ascii (by decide), Utf8.encode_cons_of_ascii highAscii,
      Utf8.encode_cons_of_ascii lowAscii]
    rfl
  constructor
  · intro rest
    rw [bytes]
    exact octets_escape pair rest
  · intro rest
    rw [bytes]
    exact Percent.wellFormed_escape pair rest

theorem of_spells {bytes : List UInt8} {text : List Char} (spelled : Percent.Spells bytes text) :
    StandsFor text bytes := by
  induction spelled with
  | nil => exact nil
  | cons digits _ inductionHypothesis => exact (escape digits).append inductionHypothesis

theorem of_writesChar {marks : List Char} (marked : '%' ∈ marks ∧ '+' ∈ marks) {char : Char}
    {written : List Char} (writes : WritesChar marks char written) :
    StandsFor written (Utf8.encode [char]) := by
  cases writes with
  | literal unmarked =>
      apply literal
      · rintro rfl
        exact unmarked marked.1
      · rintro rfl
        exact unmarked marked.2
  | plus => exact space
  | escaped spelled =>
      have bytes : Utf8.encode [char] = String.utf8EncodeChar char := by simp
      rw [bytes]
      exact of_spells spelled

theorem of_writes {marks : List Char} (marked : '%' ∈ marks ∧ '+' ∈ marks)
    {text written : List Char} (writes : Writes marks text written) :
    StandsFor written (Utf8.encode text) := by
  induction writes with
  | nil => exact nil
  | @cons char rest _ _ first _ inductionHypothesis =>
      have joined := (of_writesChar marked first).append inductionHypothesis
      rwa [← Utf8.encode_append] at joined

/-- A text is read off anything that stands for its bytes. -/
theorem decodeText_eq {written : List Char} {text : String}
    (standsFor : StandsFor written (Utf8.bytes text)) :
    decodeText (Utf8.encode written) = text := by
  have whole := standsFor.octets []
  have nothing : Form.octets [] = [] := rfl
  rw [nothing, List.append_nil, List.append_nil] at whole
  rw [decodeText, whole, Utf8.bytes, Utf8.decodeLossy_encode, String.ofList_toList]

end StandsFor

/-! ### Separators -/

/-- A mark that is no plus, no percent sign and no digit is not written. -/
theorem not_mem_of_writes {marks : List Char} {mark : Char} (isMark : mark ∈ marks)
    (noPlus : mark ≠ '+') (noSign : mark ≠ '%')
    (noDigit : Ascii.hexValue? mark.toNat = none) {text written : List Char}
    (writes : Writes marks text written) : mark ∉ written := by
  induction writes with
  | nil => exact List.not_mem_nil
  | cons first _ inductionHypothesis =>
      rw [List.mem_append, not_or]
      refine ⟨?_, inductionHypothesis⟩
      cases first with
      | literal unmarked =>
          exact fun member => unmarked (List.mem_singleton.mp member ▸ isMark)
      | plus => exact fun member => noPlus (List.mem_singleton.mp member)
      | escaped spelled => exact spelled.not_mem noSign noDigit

/-! ### Reading -/

/-- What a piece between two ampersands needs to be read as a field. -/
structure ReadsAs (field : String × String) (piece : List Char) : Prop where
  unbroken : ∀ rest, Percent.wellFormed (Utf8.encode piece ++ rest) = Percent.wellFormed rest
  whole : '&' ∉ piece
  nonempty : (Utf8.encode piece).isEmpty = false
  read : (decodeText (rawField (Utf8.encode piece)).1,
    decodeText (rawField (Utf8.encode piece)).2) = field

theorem WritesField.readsAs {field : String × String} {piece : List Char}
    (writes : WritesField field piece) : ReadsAs field piece := by
  cases writes with
  | @intro name value nameText valueText nameWritten valueWritten =>
      have nameStands := StandsFor.of_writes (by decide) nameWritten
      have valueStands := StandsFor.of_writes (by decide) valueWritten
      have equals : StandsFor ['='] [0x3D] := StandsFor.literal (by decide) (by decide)
      have bytes : Utf8.encode (nameText ++ '=' :: valueText) =
          Utf8.encode nameText ++ 0x3D :: Utf8.encode valueText := by
        rw [Utf8.encode_append, Utf8.encode_cons_of_ascii (by decide)]
        rfl
      have nameFree : (0x3D : UInt8) ∉ Utf8.encode nameText := by
        intro member
        have noEquals : '=' ∉ nameText := not_mem_of_writes (by decide) (by decide) (by decide)
          (by decide) nameWritten
        exact noEquals (Utf8.mem_of_mem_encode (by decide) member)
      constructor
      · exact (nameStands.append (equals.append valueStands)).unbroken
      · have nameWhole : '&' ∉ nameText := not_mem_of_writes (by decide) (by decide) (by decide)
          (by decide) nameWritten
        have valueWhole : '&' ∉ valueText := not_mem_of_writes (by decide) (by decide)
          (by decide) (by decide) valueWritten
        simp [nameWhole, valueWhole]
      · simp [bytes]
      · rw [bytes, rawField, cutAt_append nameFree, Option.getD_some, nameStands.decodeText_eq,
          valueStands.decodeText_eq]

variable {fields : List (String × String)} {pieces : List (List Char)}

/-- No escape reaches over an ampersand. -/
theorem wellFormed_intercalate (read : List.Forall₂ ReadsAs fields pieces) :
    Percent.wellFormed (Utf8.encode (['&'].intercalate pieces)) = true := by
  induction read with
  | nil => rfl
  | @cons _ piece _ others first _ inductionHypothesis =>
      cases others with
      | nil =>
          have unbroken := first.unbroken []
          rw [List.append_nil] at unbroken
          rw [List.intercalate_singleton, unbroken]
          rfl
      | cons next others =>
          have ampersand : StandsFor ['&'] [0x26] := StandsFor.literal (by decide) (by decide)
          rw [List.intercalate_cons_cons, List.append_assoc, Utf8.encode_append,
            first.unbroken, Utf8.encode_append, ampersand.unbroken,
            inductionHypothesis]

theorem readFields_intercalate (read : List.Forall₂ ReadsAs fields pieces) :
    readFields (Utf8.encode (['&'].intercalate pieces)) = fields := by
  have wholePieces : ∀ piece ∈ pieces.map Utf8.encode, (0x26 : UInt8) ∉ piece := by
    induction read with
    | nil => exact List.forall_mem_nil _
    | cons first _ inductionHypothesis =>
        rw [List.map_cons, List.forall_mem_cons]
        exact ⟨fun member => first.whole (Utf8.mem_of_mem_encode (by decide) member),
          inductionHypothesis⟩
  have eachRead : (((pieces.map Utf8.encode).filter fun piece => !piece.isEmpty).map
      rawField).map (fun field => (decodeText field.1, decodeText field.2)) = fields := by
    clear wholePieces
    induction read with
    | nil => rfl
    | cons first _ inductionHypothesis =>
        simp [first.nonempty, first.read, inductionHypothesis]
  cases pieces with
  | nil => exact eachRead
  | cons piece others =>
      rw [readFields, rawFields, Utf8.encode_intercalate (by decide)]
      rw [show UInt8.ofNat '&'.toNat = 0x26 from rfl, splitOn_intercalate (by simp) wholePieces]
      exact eachRead

/-! ### Every encoding is undone -/

/-- Fields that are written in any way are read as the values of each name, all of them and
in the order in which they were written. Data that is no text, or in which a percent sign
begins no escape, is refused, and nothing else is. -/
theorem parse?_inverts_encodings :
    (∀ fields text, WritesForm fields text →
      ∃ form, parse? (Utf8.encode text) = some form ∧
        ∀ name, form.get? name =
          if valuesOf fields name = [] then none else some (valuesOf fields name)) ∧
      ∀ input, parse? input = none ↔ ¬ Utf8.IsText input ∨ Percent.BrokenEscape input := by
  constructor
  · rintro fields text ⟨pieces, written, rfl⟩
    have read : List.Forall₂ ReadsAs fields pieces := written.imp fun _ _ => WritesField.readsAs
    refine ⟨ofFields fields, ?_, get?_ofFields fields⟩
    rw [parse?_eq_some_iff, readFields_intercalate read, ← Percent.wellFormed_iff]
    exact ⟨⟨⟨_, rfl⟩, wellFormed_intercalate read⟩, rfl⟩
  · intro input
    exact parse?_eq_none_iff

namespace EncodingSample

/-- A repeated name, an empty name, an empty value and a value with an equals sign. -/
def sent : List (String × String) := [("a b", "é="), ("a b", ""), ("", "&")]

def text : List Char := "a+b=%c3%A9=&a%20b=&=%26".toList

theorem written : WritesForm sent text := by
  have accent : Percent.Spells (String.utf8EncodeChar 'é') ['%', 'c', '3', '%', 'A', '9'] :=
    show Percent.Spells [0xC3, 0xA9] _ from .cons (by decide) (.cons (by decide) .nil)
  have space : Percent.Spells (String.utf8EncodeChar ' ') ['%', '2', '0'] :=
    show Percent.Spells [0x20] _ from .cons (by decide) .nil
  have ampersand : Percent.Spells (String.utf8EncodeChar '&') ['%', '2', '6'] :=
    show Percent.Spells [0x26] _ from .cons (by decide) .nil
  have withPlus : Writes nameMarks ['a', ' ', 'b'] ['a', '+', 'b'] :=
    .cons (.literal (by decide)) (.cons .plus (.cons (.literal (by decide)) .nil))
  have withEscape : Writes nameMarks ['a', ' ', 'b'] ['a', '%', '2', '0', 'b'] :=
    .cons (.literal (by decide)) (.cons (.escaped space) (.cons (.literal (by decide)) .nil))
  have value : Writes valueMarks ['é', '='] ['%', 'c', '3', '%', 'A', '9', '='] :=
    .cons (.escaped accent) (.cons (.literal (by decide)) .nil)
  have last : Writes valueMarks ['&'] ['%', '2', '6'] := .cons (.escaped ampersand) .nil
  have first : WritesField ("a b", "é=") (['a', '+', 'b'] ++ '=' :: _) := .intro withPlus value
  have second : WritesField ("a b", "") (_ ++ '=' :: []) := .intro withEscape .nil
  have third : WritesField ("", "&") ([] ++ '=' :: _) := .intro .nil last
  exact ⟨_, .cons first (.cons second (.cons third .nil)), by decide⟩

end EncodingSample

theorem parse?_inverts_encodings_sample :
    ∃ form, parse? (Utf8.encode EncodingSample.text) = some form ∧
      form.get? "a b" = some ["é=", ""] ∧ form.get? "" = some ["&"] ∧ form.get? "a" = none := by
  obtain ⟨form, parsed, held⟩ :=
    parse?_inverts_encodings.1 EncodingSample.sent EncodingSample.text EncodingSample.written
  refine ⟨form, parsed, ?_, ?_, ?_⟩
  all_goals rw [held]; decide

end Form

end CallPolicy
