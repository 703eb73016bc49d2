import CallPolicy.Text.Blank
import CallPolicy.Text.Lowercase
import Mathlib.Data.List.DropRight

/-!
Contract: lower case and trimming are settled after one application.

Owns:
- the forms that one character can take in lower case, and that no form changes again;
- that a text in lower case stays as it is, and that lower case keeps the ends of a
  trimmed text free of white space.

Does not own: which names are compared in lower case.
-/

namespace CallPolicy.Text

/-! ### Sets of code points as bits -/

/-- The set of codes as the bits of one number. -/
def codeBits (codes : List Nat) : Nat :=
  codes.foldr (fun code bits => bits ||| 1 <<< code) 0

theorem testBit_codeBits (codes : List Nat) (code : Nat) :
    (codeBits codes).testBit code = true ↔ code ∈ codes := by
  induction codes with
  | nil => simp [codeBits]
  | cons head rest inductionHypothesis =>
      have unfolded : codeBits (head :: rest) = codeBits rest ||| 2 ^ head := by
        rw [← Nat.one_shiftLeft]
        rfl
      rw [unfolded, Nat.testBit_or, Bool.or_eq_true, inductionHypothesis, Nat.testBit_two_pow,
        decide_eq_true_eq, List.mem_cons, or_comm, eq_comm]

theorem not_mem_of_codeBits {left right : List Nat}
    (apart : codeBits left &&& codeBits right = 0) {code : Nat} (member : code ∈ left) :
    code ∉ right := by
  intro other
  have both : (codeBits left &&& codeBits right).testBit code = true := by
    rw [Nat.testBit_and, Bool.and_eq_true, testBit_codeBits, testBit_codeBits]
    exact ⟨member, other⟩
  rw [apart, Nat.zero_testBit] at both
  cases both

/-! ### The table of lowercase forms -/

namespace Table

/-- The distances from the start of a run at which code points stand. -/
def CaseRun.offsets (run : CaseRun) : List Nat :=
  (List.range ((run.last - run.first) / run.step + 1)).map (· * run.step)

theorem CaseRun.mem_offsets {run : CaseRun} {code : Nat}
    (covered : (run.first ≤ code && code ≤ run.last && (code - run.first) % run.step == 0) = true) :
    code - run.first ∈ run.offsets := by
  simp only [Bool.and_eq_true, decide_eq_true_eq, beq_iff_eq] at covered
  obtain ⟨⟨_, high⟩, aligned⟩ := covered
  refine List.mem_map.mpr ⟨(code - run.first) / run.step, ?_, ?_⟩
  · rw [List.mem_range, Nat.lt_succ_iff]
    exact Nat.div_le_div_right (Nat.sub_le_sub_right high _)
  · exact Nat.div_mul_cancel (Nat.dvd_of_mod_eq_zero aligned)

theorem CaseRun.le_of_mem_offsets {run : CaseRun} {offset : Nat}
    (member : offset ∈ run.offsets) : offset ≤ run.last - run.first := by
  obtain ⟨index, within, rfl⟩ := List.mem_map.mp member
  rw [List.mem_range, Nat.lt_succ_iff] at within
  calc index * run.step ≤ (run.last - run.first) / run.step * run.step :=
        Nat.mul_le_mul_right _ within
    _ ≤ run.last - run.first := Nat.div_mul_le_self _ _

/-- The code points that have another lowercase form. -/
def sources : List Nat :=
  lowercase.flatMap fun run => run.offsets.map (run.first + ·)

/-- The code points that are lowercase forms of others. -/
def targets : List Nat :=
  lowercase.flatMap fun run => run.offsets.map (run.target + ·)

/-- No lowercase form has another lowercase form, and none is the dotted capital I. -/
theorem not_source_of_target {code : Nat} (member : code ∈ targets) :
    code ∉ 0x130 :: sources := by
  have apart : codeBits targets &&& codeBits (0x130 :: sources) = 0 := by decide +kernel
  exact not_mem_of_codeBits apart member

theorem target_within {code : Nat} (member : code ∈ targets) :
    ∃ run ∈ lowercase, run.target ≤ code ∧ code ≤ run.target + (run.last - run.first) := by
  obtain ⟨run, isRun, offset, isOffset, rfl⟩ : ∃ run ∈ lowercase,
      ∃ offset ∈ run.offsets, run.target + offset = code := by
    simpa [targets] using member
  have short := CaseRun.le_of_mem_offsets isOffset
  exact ⟨run, isRun, by omega, by omega⟩

theorem target_isValidChar {code : Nat} (member : code ∈ targets) : code.isValidChar := by
  have runs : ∀ run ∈ lowercase, run.target + (run.last - run.first) < 0xD800 ∨
      0xDFFF < run.target ∧ run.target + (run.last - run.first) < 0x110000 := by
    decide +kernel
  obtain ⟨run, isRun, low, high⟩ := target_within member
  rcases runs run isRun with below | above
  · exact Or.inl (by omega)
  · exact Or.inr ⟨by omega, by omega⟩

theorem target_not_blank {code : Nat} (member : code ∈ targets) :
    blanks.contains code = false := by
  have runs : ∀ run ∈ lowercase, ∀ range ∈ blanks,
      run.target + (run.last - run.first) < range.1 ∨ range.2 < run.target := by
    decide +kernel
  obtain ⟨run, isRun, low, high⟩ := target_within member
  rw [← Bool.not_eq_true, Ranges.contains_iff]
  rintro ⟨range, isRange, first, last⟩
  have apart := runs run isRun range isRange
  omega

end Table

/-! ### The forms of one character -/

/-- Lower case leaves the character alone, wherever it stands. -/
structure Settled (char : Char) : Prop where
  same : lowerChar char = char
  notSigma : char.toNat ≠ 0x3A3
  notDotted : char.toNat ≠ 0x130

instance (char : Char) : Decidable (Settled char) :=
  decidable_of_iff (lowerChar char = char ∧ char.toNat ≠ 0x3A3 ∧ char.toNat ≠ 0x130)
    ⟨fun ⟨same, notSigma, notDotted⟩ => ⟨same, notSigma, notDotted⟩,
      fun settled => ⟨settled.same, settled.notSigma, settled.notDotted⟩⟩

/-- A character stays as it is, or its code point has another lowercase form. -/
theorem lowerChar_cases (char : Char) :
    lowerChar char = char ∨ char.toNat ∈ Table.sources ∧
      ∃ code ∈ Table.targets, lowerChar char = Char.ofNat code := by
  unfold lowerChar
  simp only
  cases found : Table.lowercase.find? fun run =>
      run.first ≤ char.toNat && char.toNat ≤ run.last &&
        (char.toNat - run.first) % run.step == 0 with
  | none => exact Or.inl rfl
  | some run =>
      have isRun := List.mem_of_find?_eq_some found
      have covered := List.find?_some found
      have isOffset := Table.CaseRun.mem_offsets covered
      have low : run.first ≤ char.toNat := by
        simp only [Bool.and_eq_true, decide_eq_true_eq] at covered
        exact covered.1.1
      refine Or.inr ⟨?_, run.target + (char.toNat - run.first), ?_, rfl⟩
      · refine List.mem_flatMap.mpr ⟨run, isRun, List.mem_map.mpr ⟨_, isOffset, ?_⟩⟩
        omega
      · exact List.mem_flatMap.mpr ⟨run, isRun, List.mem_map_of_mem isOffset⟩

theorem settled_of_target {code : Nat} (isTarget : code ∈ Table.targets) :
    Settled (Char.ofNat code) ∧ isBlank (Char.ofNat code) = false := by
  have valid : (Char.ofNat code).toNat = code := by
    rw [Char.ofNat, dif_pos (Table.target_isValidChar isTarget)]
    rfl
  have unmoved := Table.not_source_of_target isTarget
  have sigmaMoves : 0x3A3 ∈ 0x130 :: Table.sources := by decide +kernel
  refine ⟨⟨?_, ?_, ?_⟩, ?_⟩
  · rcases lowerChar_cases (Char.ofNat code) with same | ⟨isSource, _⟩
    · exact same
    · rw [valid] at isSource
      exact absurd (List.mem_cons_of_mem _ isSource) unmoved
  · rw [valid]
    exact fun same => unmoved (same ▸ sigmaMoves)
  · rw [valid]
    exact fun same => unmoved (same ▸ List.mem_cons_self)
  · rw [isBlank, valid]
    exact Table.target_not_blank isTarget

/-- The forms that a character can take in lower case. Only the capital sigma has more
than one, and only the dotted capital I has a form of two characters. -/
def lowerForms (char : Char) : List (List Char) :=
  if char.toNat = 0x3A3 then [[Char.ofNat 0x3C2], [Char.ofNat 0x3C3]]
  else if char.toNat = 0x130 then [['i', Char.ofNat 0x307]]
  else [[lowerChar char]]

theorem lowerForms_of_settled {char : Char} (settled : Settled char) :
    lowerForms char = [[char]] := by
  rw [lowerForms, if_neg settled.notSigma, if_neg settled.notDotted, settled.same]

theorem ne_nil_of_mem_lowerForms {char : Char} {form : List Char}
    (isForm : form ∈ lowerForms char) : form ≠ [] := by
  rintro rfl
  unfold lowerForms at isForm
  split at isForm
  · simp at isForm
  · split at isForm <;> simp at isForm

/-- A form consists of settled characters, and only white space has one that is white
space. -/
theorem settled_of_mem_lowerForms {char formed : Char} {form : List Char}
    (isForm : form ∈ lowerForms char) (member : formed ∈ form) :
    Settled formed ∧ (isBlank char = false → isBlank formed = false) := by
  have fixed : ∀ other ∈ [Char.ofNat 0x3C2, Char.ofNat 0x3C3, 'i', Char.ofNat 0x307],
      Settled other ∧ isBlank other = false := by
    intro other known
    simp only [List.mem_cons, List.not_mem_nil, or_false] at known
    rcases known with rfl | rfl | rfl | rfl <;> decide +kernel
  unfold lowerForms at isForm
  split at isForm
  · have known : formed ∈ [Char.ofNat 0x3C2, Char.ofNat 0x3C3, 'i', Char.ofNat 0x307] := by
      rcases List.mem_pair.mp isForm with rfl | rfl <;> simp_all
    exact ⟨(fixed formed known).1, fun _ => (fixed formed known).2⟩
  · split at isForm
    · have known : formed ∈ [Char.ofNat 0x3C2, Char.ofNat 0x3C3, 'i', Char.ofNat 0x307] := by
        rw [List.mem_singleton] at isForm
        subst isForm
        rcases List.mem_pair.mp member with rfl | rfl <;> simp
      exact ⟨(fixed formed known).1, fun _ => (fixed formed known).2⟩
    · rename_i notSigma notDotted
      rw [List.mem_singleton] at isForm
      subst isForm
      rw [List.mem_singleton] at member
      subst member
      rcases lowerChar_cases char with same | ⟨_, code, isTarget, moved⟩
      · rw [same]
        exact ⟨⟨same, notSigma, notDotted⟩, id⟩
      · rw [moved]
        exact ⟨(settled_of_target isTarget).1, fun _ => (settled_of_target isTarget).2⟩

/-! ### Whole texts -/

/-- The second text consists of one form for each character of the first. -/
inductive Lowered : List Char → List Char → Prop where
  | nil : Lowered [] []
  | cons {char : Char} {form : List Char} (isForm : form ∈ lowerForms char)
      {rest written : List Char} (others : Lowered rest written) :
      Lowered (char :: rest) (form ++ written)

theorem exists_lowered (text before done : List Char) :
    ∃ written, Lowered text written ∧ lowerLoop text before done = done.reverse ++ written := by
  induction text generalizing before done with
  | nil => exact ⟨[], .nil, by simp [lowerLoop]⟩
  | cons char rest inductionHypothesis =>
      unfold lowerLoop
      simp only
      split
      · rename_i sigma
        let form := Char.ofNat (if casedNext before && !casedNext rest then 0x3C2 else 0x3C3)
        have isForm : [form] ∈ lowerForms char := by
          rw [lowerForms, if_pos sigma, List.mem_pair]
          by_cases final : (casedNext before && !casedNext rest) = true
          · exact Or.inl (by simp [form, final])
          · exact Or.inr (by simp [form, final])
        obtain ⟨written, others, loop⟩ := inductionHypothesis (char :: before) (form :: done)
        exact ⟨_, .cons isForm others, loop.trans (by simp)⟩
      · rename_i notSigma
        split
        · rename_i dotted
          have isForm : ['i', Char.ofNat 0x307] ∈ lowerForms char := by
            rw [lowerForms, if_neg notSigma, if_pos dotted]
            exact List.mem_cons_self
          obtain ⟨written, others, loop⟩ := inductionHypothesis (char :: before)
            (Char.ofNat 0x307 :: 'i' :: done)
          exact ⟨_, .cons isForm others, loop.trans (by simp)⟩
        · rename_i notDotted
          have isForm : [lowerChar char] ∈ lowerForms char := by
            rw [lowerForms, if_neg notSigma, if_neg notDotted]
            exact List.mem_cons_self
          obtain ⟨written, others, loop⟩ := inductionHypothesis (char :: before)
            (lowerChar char :: done)
          exact ⟨_, .cons isForm others, loop.trans (by simp)⟩

theorem lowered_toLower (text : String) : Lowered text.toList (toLower text).toList := by
  obtain ⟨written, lowered, loop⟩ := exists_lowered text.toList [] []
  rw [toLower, String.toList_ofList, loop]
  exact lowered

namespace Lowered

variable {text written : List Char}

theorem settled (lowered : Lowered text written) : ∀ char ∈ written, Settled char := by
  induction lowered with
  | nil => simp
  | cons isForm others inductionHypothesis =>
      intro char member
      rcases List.mem_append.mp member with inForm | inRest
      · exact (settled_of_mem_lowerForms isForm inForm).1
      · exact inductionHypothesis char inRest

theorem eq_of_settled (lowered : Lowered text written)
    (settled : ∀ char ∈ text, Settled char) : written = text := by
  induction lowered with
  | nil => rfl
  | cons isForm others inductionHypothesis =>
      obtain ⟨headSettled, restSettled⟩ := List.forall_mem_cons.mp settled
      rw [lowerForms_of_settled headSettled, List.mem_singleton] at isForm
      rw [isForm, inductionHypothesis restSettled, List.singleton_append]

theorem eq_nil_iff (lowered : Lowered text written) : written = [] ↔ text = [] := by
  cases lowered with
  | nil => rfl
  | cons isForm others => simp [ne_nil_of_mem_lowerForms isForm]

end Lowered

/-- Lower case of a text in lower case is the text. -/
theorem toLower_toLower (text : String) : toLower (toLower text) = toLower text :=
  String.toList_injective
    ((lowered_toLower _).eq_of_settled (lowered_toLower text).settled)

/-! ### Trimmed texts -/

/-- No white space stands at either end. -/
structure Trimmed (text : List Char) : Prop where
  first : ∀ char ∈ text.head?, isBlank char = false
  last : ∀ char ∈ text.getLast?, isBlank char = false

theorem trimmed_trimChars (text : List Char) : Trimmed (trimChars text) := by
  have keepsFirst : trimChars text <+: text.dropWhile isBlank :=
    List.rdropWhile_prefix isBlank (text.dropWhile isBlank)
  constructor
  · intro char isFirst
    have dropped := List.head?_dropWhile_not isBlank text
    obtain ⟨rest, joined⟩ := keepsFirst
    rw [← joined, List.head?_append, Option.mem_def.mp isFirst] at dropped
    exact dropped
  · intro char isLast
    have dropped := List.head?_dropWhile_not isBlank (text.dropWhile isBlank).reverse
    rw [← List.getLast?_reverse, ← trimChars, Option.mem_def.mp isLast] at dropped
    exact dropped

theorem dropWhile_of_head? {text : List Char} (first : ∀ char ∈ text.head?, isBlank char = false) :
    text.dropWhile isBlank = text := by
  cases text with
  | nil => rfl
  | cons char rest => exact List.dropWhile_cons_of_neg (by simp [first char rfl])

theorem trimChars_of_trimmed {text : List Char} (trimmed : Trimmed text) :
    trimChars text = text := by
  have backward : text.reverse.dropWhile isBlank = text.reverse := by
    apply dropWhile_of_head?
    rw [List.head?_reverse]
    exact trimmed.last
  rw [trimChars, dropWhile_of_head? trimmed.first, backward, List.reverse_reverse]

namespace Lowered

variable {text written : List Char}

theorem first_not_blank (lowered : Lowered text written)
    (first : ∀ char ∈ text.head?, isBlank char = false) :
    ∀ char ∈ written.head?, isBlank char = false := by
  intro char isFirst
  cases lowered with
  | nil => cases isFirst
  | cons isForm others =>
      obtain ⟨head, tail, rfl⟩ := List.exists_cons_of_ne_nil (ne_nil_of_mem_lowerForms isForm)
      cases isFirst
      exact (settled_of_mem_lowerForms isForm List.mem_cons_self).2 (first _ rfl)

theorem last_not_blank (lowered : Lowered text written)
    (last : ∀ char ∈ text.getLast?, isBlank char = false) :
    ∀ char ∈ written.getLast?, isBlank char = false := by
  induction lowered with
  | nil => simp
  | @cons head form isForm rest written others inductionHypothesis =>
      intro char isLast
      rw [List.getLast?_append] at isLast
      by_cases ended : rest = []
      · rw [others.eq_nil_iff.mpr ended] at isLast
        have inForm := List.mem_of_getLast? isLast
        exact (settled_of_mem_lowerForms isForm inForm).2 (last head (by simp [ended]))
      · have unfinished : written ≠ [] := fun empty => ended (others.eq_nil_iff.mp empty)
        have sameEnd : (head :: rest).getLast? = rest.getLast? := by
          obtain ⟨next, more, rfl⟩ := List.exists_cons_of_ne_nil ended
          exact List.getLast?_cons_cons
        rw [List.getLast?_eq_some_getLast unfinished, Option.some_or] at isLast
        refine inductionHypothesis (sameEnd ▸ last) char ?_
        rw [List.getLast?_eq_some_getLast unfinished]
        exact isLast

end Lowered

/-- Lower case brings no white space to the ends of a text. -/
theorem trim_toLower_trim (text : String) : trim (toLower (trim text)) = toLower (trim text) := by
  have trimmed : Trimmed (trim text).toList := by
    rw [trim, String.toList_ofList]
    exact trimmed_trimChars text.toList
  have lowered := lowered_toLower (trim text)
  have stays : Trimmed (toLower (trim text)).toList :=
    ⟨lowered.first_not_blank trimmed.first, lowered.last_not_blank trimmed.last⟩
  rw [trim, trimChars_of_trimmed stays, String.ofList_toList]

end CallPolicy.Text
