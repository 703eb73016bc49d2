import CallPolicy.Json.Token
import CallPolicy.Proofs.Segments

/-!
Contract: integers of 64 bits are read as they are written.

Owns:
- the digits of a natural number, read back one by one;
- number texts that are digits, with or without a minus;
- the text of an integer as one token.

Does not own: the texts of doubles, and where a number ends inside a document.

## Why the limits matter

Digits are collected into a significand of 64 bits, and a number beyond them is read as a double.
An integer without sign reaches the limit of the significand, one with a sign half of it, and
both are kept as integers up to there.
-/

namespace CallPolicy

namespace NumberText

/-! ### Digits -/

def values (digits : List Char) : List Nat :=
  digits.map fun char => char.toNat - '0'.toNat

theorem digits?_of_isDigit {digits : List Char} (each : ∀ char ∈ digits, char.isDigit = true) :
    digits? digits = some (values digits) := by
  induction digits with
  | nil => rfl
  | cons char rest inductionHypothesis =>
      obtain ⟨isDigit, others⟩ := List.forall_mem_cons.mp each
      have readRest : rest.mapM digit? = some (values rest) := inductionHypothesis others
      rw [digits?, List.mapM_cons, readRest, digit?, if_pos isDigit]
      rfl

/-- A significand only grows with further digits. -/
theorem le_ofDigitChars (digits : List Char) (significand : Nat) :
    significand ≤ Nat.ofDigitChars 10 digits significand := by
  rw [Nat.ofDigitChars_eq_ofDigitChars_zero]
  have positive : 1 ≤ 10 ^ digits.length := Nat.one_le_pow _ _ (by decide)
  calc significand ≤ 10 ^ digits.length * significand := Nat.le_mul_of_pos_left _ positive
    _ ≤ _ := Nat.le_add_right _ _

/-- All digits are collected when the number that they spell is within the limit. -/
theorem collect_values {digits : List Char} {significand : Nat}
    (fits : Nat.ofDigitChars 10 digits significand ≤ significandLimit) :
    collect significand (values digits) = (Nat.ofDigitChars 10 digits significand, 0) := by
  induction digits generalizing significand with
  | nil => simp [values, collect]
  | cons char rest inductionHypothesis =>
      rw [Nat.ofDigitChars_cons, Nat.mul_comm] at fits ⊢
      have nextFits := Nat.le_trans (le_ofDigitChars rest _) fits
      rw [values, List.map_cons, collect, if_pos nextFits]
      exact inductionHypothesis fits

theorem isDigit_of_mem_toDigits {value : Nat} {char : Char}
    (member : char ∈ Nat.toDigits 10 value) : char.isDigit = true :=
  Nat.isDigit_of_mem_toDigits (by decide) (by decide) member

/-- Only zero is written with a zero in front. -/
theorem head?_toDigits {value : Nat} (positive : 0 < value) :
    (Nat.toDigits 10 value).head? ≠ some '0' := by
  induction value using Nat.strongRecOn with
  | ind value inductionHypothesis =>
      by_cases single : value < 10
      · rw [Nat.toDigits_of_lt_base single, List.head?_cons, Ne, Option.some.injEq,
          Nat.digitChar_eq_zero]
        exact Nat.ne_of_gt positive
      · have long : 10 ≤ value := Nat.le_of_not_lt single
        rw [Nat.toDigits_of_base_le (by decide) long, List.head?_append_of_ne_nil _ Nat.toDigits_ne_nil]
        exact inductionHypothesis _ (by omega) (by omega)

theorem whole?_of_unpadded {digits : List Char} (nonempty : digits ≠ [])
    (unpadded : digits.head? ≠ some '0') : whole? digits = digits? digits := by
  unfold whole?
  split
  · exact absurd rfl unpadded
  · exact absurd rfl unpadded
  · rw [someDigits?, if_neg (by simpa using nonempty)]

theorem whole?_toDigits (value : Nat) :
    whole? (Nat.toDigits 10 value) = some (values (Nat.toDigits 10 value)) := by
  rcases Nat.eq_zero_or_pos value with rfl | positive
  · rfl
  · rw [whole?_of_unpadded Nat.toDigits_ne_nil (head?_toDigits positive)]
    exact digits?_of_isDigit fun _ => isDigit_of_mem_toDigits

/-! ### Number texts -/

/-- Digits, perhaps after a minus. -/
def signed (negative : Bool) (digits : List Char) : List Char :=
  if negative then '-' :: digits else digits

/-- Digits have none of the marks that begin a fraction or an exponent. -/
theorem ofChars?_signed (negative : Bool) (value : Nat) :
    ofChars? (signed negative (Nat.toDigits 10 value)) =
      some ⟨negative, values (Nat.toDigits 10 value), none, none⟩ := by
  have isDigit := @isDigit_of_mem_toDigits value
  have whole := whole?_toDigits value
  have nonempty := Nat.toDigits_ne_nil (n := value) (b := 10)
  -- From here on it matters only that they are digits, and which ones does not.
  generalize Nat.toDigits 10 value = digits at isDigit whole nonempty
  have noExponent : digits.map (fun char => if char = 'E' then 'e' else char) = digits := by
    refine (List.map_congr_left fun char member => if_neg ?_).trans (List.map_id _)
    rintro rfl
    exact absurd (isDigit member) (by decide)
  have uncut : ∀ mark : Char, mark.isDigit = false → Text.cutAt mark digits = none := by
    intro mark noDigit
    refine Text.cutAt_of_not_mem fun member => ?_
    rw [isDigit member] at noDigit
    cases noDigit
  have unsigned : ∀ rest, digits ≠ '-' :: rest := by
    rintro rest rfl
    exact absurd (isDigit List.mem_cons_self) (by decide)
  cases negative with
  | true => simp [signed, ofChars?, noExponent, uncut 'e' (by decide), uncut '.' (by decide), whole]
  | false =>
      rw [signed, if_neg Bool.false_ne_true, ofChars?]
      · simp [noExponent, uncut 'e' (by decide), uncut '.' (by decide), whole]
      · exact unsigned

end NumberText

/-! ### Integers -/

namespace Number

/-- An integer of 64 bits, with or without sign. -/
def Whole : Number → Prop
  | integer value => lowestInteger ≤ value ∧ value ≤ highestInteger
  | real _ => False

/-- An integer is written as its digits, after a minus if it is below zero. -/
theorem render_integer (value : Int) :
    (integer value).render.toList =
      NumberText.signed (value < 0) (Nat.toDigits 10 value.natAbs) := by
  cases value with
  | ofNat magnitude =>
      have nonnegative : decide ((Int.ofNat magnitude) < 0) = false := by simp
      rw [nonnegative]
      exact Nat.toList_repr
  | negSucc below =>
      have negative : decide (Int.negSucc below < 0) = true := by simp
      rw [negative]
      change ("-" ++ Nat.repr (below + 1)).toList = _
      rw [String.toList_append, Nat.toList_repr]
      rfl

/-- All digits of the integer are collected, so that it is not rounded. -/
theorem value?_signed {value : Int} (whole : (integer value).Whole) :
    NumberText.value? ⟨value < 0, NumberText.values (Nat.toDigits 10 value.natAbs), none, none⟩ =
      some (.integer value) := by
  obtain ⟨lowest, highest⟩ := whole
  unfold lowestInteger at lowest
  unfold highestInteger at highest
  have spelled : Nat.ofDigitChars 10 (Nat.toDigits 10 value.natAbs) 0 = value.natAbs :=
    Nat.ofDigitChars_ten_toDigits
  have within : value.natAbs ≤ NumberText.significandLimit := by
    unfold NumberText.significandLimit
    omega
  have collected : NumberText.collect 0 (NumberText.values (Nat.toDigits 10 value.natAbs)) =
      (value.natAbs, 0) := by
    rw [NumberText.collect_values (spelled.symm ▸ within), spelled]
  simp only [NumberText.value?, collected]
  rw [if_pos]
  · congr 2
    by_cases negative : value < 0
    · rw [if_pos (decide_eq_true negative)]
      omega
    · rw [if_neg (by simpa using negative)]
      omega
  · refine ⟨trivial, trivial, trivial, ?_⟩
    by_cases negative : value < 0
    · exact Or.inr (by omega)
    · exact Or.inl (decide_eq_false negative)

theorem ofNumber?_render {number : Number} (whole : number.Whole) :
    Json.Token.ofNumber? number.render.toList = some (.scalar (.number number)) := by
  cases number with
  | real value => exact whole.elim
  | integer value =>
      rw [Json.Token.ofNumber?, render_integer, NumberText.ofChars?_signed, Option.map_some,
        value?_signed whole]

/-- The first character tells that a number begins, and the others continue it. -/
theorem render_begins {number : Number} (whole : number.Whole) :
    ∃ first rest, number.render.toList = first :: rest ∧
      (first.isDigit = true ∨ first = '-') ∧
        ∀ char ∈ rest, Json.Token.isNumberChar char = true := by
  cases number with
  | real value => exact whole.elim
  | integer value =>
      have isNumberChar : ∀ char ∈ Nat.toDigits 10 value.natAbs,
          Json.Token.isNumberChar char = true := by
        intro char member
        simp [Json.Token.isNumberChar, NumberText.isDigit_of_mem_toDigits member]
      rw [render_integer]
      cases decide (value < 0) with
      | true => exact ⟨_, _, rfl, Or.inr rfl, isNumberChar⟩
      | false =>
          obtain ⟨first, rest, digits⟩ := List.exists_cons_of_ne_nil
            (Nat.toDigits_ne_nil (n := value.natAbs) (b := 10))
          have isFirst : first ∈ Nat.toDigits 10 value.natAbs := digits ▸ List.mem_cons_self
          refine ⟨first, rest, digits, Or.inl (NumberText.isDigit_of_mem_toDigits isFirst), ?_⟩
          exact fun char member => isNumberChar char (digits ▸ List.mem_cons_of_mem _ member)

end Number

end CallPolicy
