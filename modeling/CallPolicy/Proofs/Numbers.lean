import CallPolicy.Json.Cover
import CallPolicy.Json.NumberText
import CallPolicy.Proofs.Rounding
import CallPolicy.Yaml.Value

/-!
Contract: how a received number is compared with a wanted one.

Owns:
- the rational that a number stands for, and the range in which all numbers lie that are read
  from JSON or YAML;
- that two integers are compared exactly, over the whole range of 64 bits, and two doubles
  are compared by value;
- that an integer and a double are compared after the integer was rounded, and the exact
  condition under which this differs from a comparison by value.

Does not own: which number a text stands for.

## Why integers are still exact

Only an integer below zero and one above the signed range are compared as doubles. Rounding
keeps them on their sides of zero, so they stay different.
-/

namespace CallPolicy

namespace Number

open Binary64

/-- The rational that a number stands for. -/
def value : Number → ℚ
  | .integer whole => whole
  | .real double => double.value

/-- An integer is kept as one if it has 64 bits. -/
def Fits : Number → Prop
  | .integer whole => lowestInteger ≤ whole ∧ whole ≤ highestInteger
  | .real _ => True

instance (number : Number) : Decidable number.Fits :=
  match number with
  | .integer whole => inferInstanceAs (Decidable (lowestInteger ≤ whole ∧ whole ≤ highestInteger))
  | .real _ => inferInstanceAs (Decidable True)

/-- One number is an integer that no double equals, and the other is the double nearest to
it. -/
inductive Blurs : Number → Number → Prop where
  | given {whole : ℤ} {double : Binary64} (nearest : Nearest whole double)
      (inexact : double.value ≠ whole) : Blurs (.integer whole) (.real double)
  | wanted {whole : ℤ} {double : Binary64} (nearest : Nearest whole double)
      (inexact : double.value ≠ whole) : Blurs (.real double) (.integer whole)

theorem Blurs.value_ne {left right : Number} (blurs : Blurs left right) :
    left.value ≠ right.value := by
  cases blurs with
  | given nearest inexact => exact inexact.symm
  | wanted nearest inexact => exact inexact

/-- Only integers beyond the significands of the doubles are blurred. -/
theorem not_blurs_of_small {whole : ℤ} (small : whole.natAbs ≤ significandBound)
    (other : Number) : ¬ Blurs (.integer whole) other := by
  intro blurs
  cases blurs with
  | given nearest inexact => exact inexact (nearest.value_eq_of_small small)

theorem real?_of_fits {whole : ℤ} (fits : Fits (.integer whole)) :
    ∃ rounded, real? (.integer whole) = some rounded ∧ Nearest whole rounded := by
  have small : whole.natAbs < 2 ^ 64 := by
    obtain ⟨low, high⟩ := fits
    unfold lowestInteger at low
    unfold highestInteger at high
    omega
  obtain ⟨rounded, found⟩ := ofInt?_some small
  exact ⟨rounded, found, ofInt?_nearest found⟩

/-! ### The stages of the comparison -/

section Stages

variable {left right : Number}

theorem same_of_unsigned {leftValue rightValue : ℤ}
    (notSigned : left.signed? = none ∨ right.signed? = none)
    (leftUnsigned : left.unsigned? = some leftValue)
    (rightUnsigned : right.unsigned? = some rightValue) :
    left.same right = true ↔ leftValue = rightValue := by
  unfold Number.same
  rcases notSigned with large | large
  · simp [large, leftUnsigned, rightUnsigned]
  · simp [large, leftUnsigned, rightUnsigned]

theorem same_of_real {leftValue rightValue : Binary64}
    (notSigned : left.signed? = none ∨ right.signed? = none)
    (notUnsigned : left.unsigned? = none ∨ right.unsigned? = none)
    (leftReal : left.real? = some leftValue) (rightReal : right.real? = some rightValue) :
    left.same right = true ↔ leftValue.value = rightValue.value := by
  rw [← same_iff_value_eq]
  unfold Number.same
  rcases notSigned with large | large <;> rcases notUnsigned with negative | negative <;>
    simp [large, negative, leftReal, rightReal]

end Stages

/-! ### Integers -/

section Integers

variable {left right : ℤ}

/-- An integer below zero and a positive one are not rounded to the same double. -/
theorem rounded_lt {low high : ℤ} {lowRounded highRounded : Binary64}
    (negative : low < 0) (positive : 0 < high) (lowNearest : Nearest low lowRounded)
    (highNearest : Nearest high highRounded) : lowRounded.value < highRounded.value := by
  have below : lowRounded.value ≤ (zero false).value := by
    apply lowNearest.value_le
    rw [value_zero]
    exact_mod_cast negative.le
  have above : one.value ≤ highRounded.value := by
    apply highNearest.le_value
    rw [value_one]
    exact_mod_cast positive
  rw [value_zero] at below
  rw [value_one] at above
  linarith

theorem signed?_eq_none (large : highestSigned < left) : signed? (.integer left) = none :=
  if_neg (not_le.mpr large)

theorem unsigned?_eq_none (negative : left < 0) : unsigned? (.integer left) = none :=
  if_neg (not_le.mpr negative)

/-- Two integers are the same number exactly when they are equal. -/
theorem same_integers (leftFits : Fits (.integer left)) (rightFits : Fits (.integer right)) :
    Number.same (.integer left) (.integer right) = true ↔ left = right := by
  have signedPositive : 0 < highestSigned := by decide
  obtain ⟨leftRounded, leftReal, leftNearest⟩ := real?_of_fits leftFits
  obtain ⟨rightRounded, rightReal, rightNearest⟩ := real?_of_fits rightFits
  by_cases signed : left ≤ highestSigned ∧ right ≤ highestSigned
  · simp [Number.same, signed?, signed]
  have notSigned : signed? (.integer left) = none ∨ signed? (.integer right) = none := by
    rcases not_and_or.mp signed with large | large
    · exact Or.inl (signed?_eq_none (not_le.mp large))
    · exact Or.inr (signed?_eq_none (not_le.mp large))
  rcases lt_or_ge left 0 with leftNegative | leftNonneg
  · have rightPositive : 0 < right := by omega
    rw [same_of_real notSigned (Or.inl (unsigned?_eq_none leftNegative)) leftReal rightReal]
    have apart := rounded_lt leftNegative rightPositive leftNearest rightNearest
    exact iff_of_false apart.ne (by omega)
  rcases lt_or_ge right 0 with rightNegative | rightNonneg
  · have leftPositive : 0 < left := by omega
    rw [same_of_real notSigned (Or.inr (unsigned?_eq_none rightNegative)) leftReal rightReal]
    have apart := rounded_lt rightNegative leftPositive rightNearest leftNearest
    exact iff_of_false apart.ne' (by omega)
  · exact same_of_unsigned notSigned (if_pos leftNonneg) (if_pos rightNonneg)

end Integers

/-! ### Integers and doubles -/

section Mixed

variable {whole : ℤ} {double : Binary64}

/-- An integer and a double are the same number exactly when the double is nearest to the
integer. -/
theorem same_integer_real (fits : Fits (.integer whole)) :
    Number.same (.integer whole) (.real double) = true ↔ Nearest whole double := by
  obtain ⟨rounded, found, nearest⟩ := real?_of_fits fits
  rw [same_of_real (Or.inr rfl) (Or.inr rfl) found rfl]
  exact ⟨nearest.congr, nearest.value_eq⟩

theorem same_real_integer (fits : Fits (.integer whole)) :
    Number.same (.real double) (.integer whole) = true ↔ Nearest whole double := by
  obtain ⟨rounded, found, nearest⟩ := real?_of_fits fits
  rw [same_of_real (Or.inl rfl) (Or.inl rfl) rfl found, eq_comm]
  exact ⟨nearest.congr, nearest.value_eq⟩

theorem nearest_iff :
    Nearest whole double ↔ double.value = whole ∨ (Nearest whole double ∧ double.value ≠ whole) := by
  constructor
  · intro nearest
    by_cases equal : double.value = whole
    · exact Or.inl equal
    · exact Or.inr ⟨nearest, equal⟩
  · rintro (equal | ⟨nearest, _⟩)
    · rw [← equal]
      exact Nearest.of_value double
    · exact nearest

end Mixed

/-- Numbers count as the same if their values are equal or rounding makes them so. -/
theorem same_iff {left right : Number} (leftFits : left.Fits) (rightFits : right.Fits) :
    left.same right = true ↔ left.value = right.value ∨ Blurs left right := by
  cases left with
  | integer leftWhole =>
    cases right with
    | integer rightWhole =>
      rw [same_integers leftFits rightFits]
      constructor
      · rintro rfl
        exact Or.inl rfl
      · rintro (same | blurs)
        · exact Int.cast_injective same
        · cases blurs
    | real double =>
      rw [same_integer_real leftFits, nearest_iff]
      constructor
      · rintro (equal | ⟨nearest, inexact⟩)
        · exact Or.inl equal.symm
        · exact Or.inr (.given nearest inexact)
      · rintro (same | blurs)
        · exact Or.inl same.symm
        · cases blurs with
          | given nearest inexact => exact Or.inr ⟨nearest, inexact⟩
  | real leftDouble =>
    cases right with
    | integer whole =>
      rw [same_real_integer rightFits, nearest_iff]
      constructor
      · rintro (equal | ⟨nearest, inexact⟩)
        · exact Or.inl equal
        · exact Or.inr (.wanted nearest inexact)
      · rintro (same | blurs)
        · exact Or.inl same
        · cases blurs with
          | wanted nearest inexact => exact Or.inr ⟨nearest, inexact⟩
    | real rightDouble =>
      have stages : Number.same (.real leftDouble) (.real rightDouble) = true ↔
          leftDouble.value = rightDouble.value :=
        same_of_real (Or.inl rfl) (Or.inl rfl) rfl rfl
      rw [stages]
      constructor
      · exact Or.inl
      · rintro (same | blurs)
        · exact same
        · cases blurs

theorem same_iff_of_not_blurs {left right : Number} (leftFits : left.Fits)
    (rightFits : right.Fits) (sharp : ¬ Blurs left right) :
    left.same right = true ↔ left.value = right.value := by
  rw [same_iff leftFits rightFits]
  exact or_iff_left sharp

/-! ### Numbers that are read -/

theorem fits_of_map_real {found : Option Binary64} {number : Number}
    (isReal : found.map Number.real = some number) : number.Fits := by
  obtain ⟨double, _, rfl⟩ := Option.map_eq_some_iff.mp isReal
  trivial

end Number

namespace NumberText

theorem collect_le {significand : ℕ} (le : significand ≤ significandLimit) (digits : List ℕ) :
    (collect significand digits).1 ≤ significandLimit := by
  induction digits generalizing significand with
  | nil => exact le
  | cons digit rest inductionHypothesis =>
      unfold collect
      by_cases fits : significand * 10 + digit ≤ significandLimit
      · rw [if_pos fits]
        exact inductionHypothesis fits
      · rw [if_neg fits]
        exact le

/-- A collected significand fits, with a minus where it is the magnitude of a signed integer. -/
theorem fits_of_collected {kept : ℕ} {negative : Bool} (bounded : kept ≤ significandLimit)
    (signed : negative = false ∨ (0 < kept ∧ kept ≤ 0x8000000000000000)) :
    Number.Fits (.integer (if negative then -(kept : ℤ) else kept)) := by
  unfold significandLimit at bounded
  show Number.lowestInteger ≤ _ ∧ _ ≤ Number.highestInteger
  unfold Number.lowestInteger Number.highestInteger
  cases negative with
  | false =>
      simp only [Bool.false_eq_true, if_false]
      omega
  | true =>
      have small := signed.resolve_left (by simp)
      simp only [if_true]
      omega

/-- Every number that a JSON text stands for fits. -/
theorem fits_of_value? {text : NumberText} {number : Number}
    (found : text.value? = some number) : number.Fits := by
  have bounded := collect_le (Nat.zero_le significandLimit) text.whole
  unfold value? at found
  cases collected : collect 0 text.whole with
  | mk kept dropped =>
      rw [collected] at found bounded
      simp only [] at found bounded
      split at found
      · rename_i range
        cases found
        exact fits_of_collected bounded range.2.2.2
      · split at found
        · exact Number.fits_of_map_real found
        · split at found
          · split at found <;> cases found
            trivial
          · exact Number.fits_of_map_real found

end NumberText

namespace Yaml.Scalar

variable {text : String} {number : Number}

theorem fits_of_held {chars : List Char} {whole : ℤ} (held : readInteger chars = .held whole) :
    Number.Fits (.integer whole) := by
  unfold readInteger at held
  cases read : integer? chars with
  | none =>
      rw [read] at held
      cases held
  | some value =>
      rw [read] at held
      simp only [] at held
      split_ifs at held with inRange
      obtain rfl : value = whole := IntegerReading.held.inj held
      rwa [fits, Bool.and_eq_true, decide_eq_true_eq, decide_eq_true_eq] at inRange

theorem fits_of_real? {chars : List Char} (found : real? chars = some (.number number)) :
    number.Fits := by
  unfold real? at found
  split_ifs at found
  · cases found
  · split at found
    all_goals
      obtain ⟨double, _, same⟩ := Option.map_eq_some_iff.mp found
      cases same
      trivial

theorem fits_of_plainValue? (found : plainValue? text = some (.number number)) : number.Fits := by
  unfold plainValue? at found
  split_ifs at found
  · cases found
  · cases truth : bool? text with
    | some value =>
        rw [truth] at found
        cases found
    | none =>
        rw [truth] at found
        simp only [] at found
        cases reading : readInteger text.toList with
        | held whole =>
            rw [reading] at found
            cases found
            exact fits_of_held reading
        | tooLarge =>
            rw [reading] at found
            cases found
        | otherText =>
            rw [reading] at found
            simp only [] at found
            split_ifs at found
            · cases found
            · cases spelled : real? text.toList with
              | none =>
                  rw [spelled] at found
                  cases found
              | some value =>
                  rw [spelled] at found
                  exact fits_of_real? (spelled.trans found)

theorem fits_of_kindValue? {kind : Kind} (found : kindValue? kind text = some (.number number)) :
    number.Fits := by
  cases kind with
  | bool =>
      obtain ⟨_, _, same⟩ := Option.map_eq_some_iff.mp found
      cases same
  | int =>
      unfold kindValue? at found
      cases reading : readInteger text.toList with
      | held whole =>
          simp only [reading] at found
          cases found
          exact fits_of_held reading
      | tooLarge =>
          simp only [reading] at found
          cases found
      | otherText =>
          simp only [reading] at found
          cases found
  | float => exact fits_of_real? found
  | null =>
      unfold kindValue? at found
      split_ifs at found
      cases found
  | other => cases found

/-- Every number that a scalar of a document stands for fits. -/
theorem fits_of_value? {tag : Option (List UInt8)} {plain : Bool}
    (found : value? tag plain text = some (.number number)) : number.Fits := by
  unfold value? at found
  split_ifs at found
  · exact fits_of_plainValue? found
  · cases found
  · exact fits_of_kindValue? found

end Yaml.Scalar

namespace Json

open Number

/-- A received number satisfies a wanted one exactly when their values are equal, unless one
of them is an integer that no double equals and the other is the double nearest to it. Then
it satisfies it although the values differ. Without such a pair satisfaction is transitive,
and an integer within the significands of the doubles satisfies no other number. All numbers
that are read, from a JSON text or a scalar of a YAML document, are in the range for which this
holds. -/
theorem covers_numbers_by_value {given wanted : Number} (givenFits : given.Fits)
    (wantedFits : wanted.Fits) :
    (¬ Blurs given wanted →
      (covers (.number given) (.number wanted) = true ↔ given.value = wanted.value)) ∧
    (Blurs given wanted →
      covers (.number given) (.number wanted) = true ∧ given.value ≠ wanted.value) ∧
    (∀ next : Number, next.Fits → ¬ Blurs given wanted → ¬ Blurs wanted next →
      covers (.number given) (.number wanted) = true →
        covers (.number wanted) (.number next) = true →
          covers (.number given) (.number next) = true) ∧
    (∀ whole : ℤ, given = .integer whole → whole.natAbs ≤ significandBound →
      covers (.number given) (.number wanted) = true → wanted.value = whole) ∧
    (∀ (text : NumberText) (number : Number), text.value? = some number → number.Fits) ∧
    (∀ tag plain text (number : Number),
      Yaml.Scalar.value? tag plain text = some (.number number) → number.Fits) := by
  refine ⟨same_iff_of_not_blurs givenFits wantedFits, ?_, ?_, ?_,
    fun _ _ => NumberText.fits_of_value?, fun _ _ _ _ => Yaml.Scalar.fits_of_value?⟩
  · intro blurs
    exact ⟨(same_iff givenFits wantedFits).mpr (Or.inr blurs), blurs.value_ne⟩
  · intro next nextFits sharp sharpNext held heldNext
    have same := (same_iff_of_not_blurs givenFits wantedFits sharp).mp held
    have sameNext := (same_iff_of_not_blurs wantedFits nextFits sharpNext).mp heldNext
    exact (same_iff givenFits nextFits).mpr (Or.inl (same.trans sameNext))
  · rintro whole rfl small held
    have sharp := not_blurs_of_small small wanted
    exact ((same_iff_of_not_blurs givenFits wantedFits sharp).mp held).symm

namespace NumbersSample

/-- The double nearest to `2 ^ 53 + 1`, which no double equals. -/
def rounded : Binary64 := ⟨false, 0x10000000000000, 1, by decide⟩

theorem value_rounded : rounded.value ≠ (0x20000000000001 : ℤ) := by
  show ((0x10000000000000 : ℕ) : ℚ) * 2 ^ (1 : ℤ) ≠ (0x20000000000001 : ℤ)
  norm_num

theorem nearest_rounded : Binary64.Nearest (0x20000000000001 : ℤ) rounded := by
  have found : Binary64.ofInt? 0x20000000000001 = some rounded := by decide +kernel
  exact Binary64.ofInt?_nearest found

end NumbersSample

open NumbersSample Binary64 in
theorem covers_numbers_by_value_sample :
    (covers (.number (.integer 1)) (.number (.real one)) = true ↔
        value (.integer 1) = value (.real one)) ∧
      (covers (.number (.integer 0x20000000000001)) (.number (.real rounded)) = true ∧
        value (.integer 0x20000000000001) ≠ value (.real rounded)) ∧
      covers (.number (.integer 1)) (.number (.integer 1)) = true ∧
      value (.real one) = (1 : ℤ) := by
  have wholeFits : Fits (.integer 1) := by decide
  have doubleFits (double : Binary64) : Fits (.real double) := trivial
  have same : value (.real one) = value (.integer 1) := value_one.trans Int.cast_one.symm
  have sharp : ¬ Blurs (.integer 1) (.real one) := fun blurs => blurs.value_ne same.symm
  have sharpBack : ¬ Blurs (.real one) (.integer 1) := fun blurs => blurs.value_ne same
  have held : covers (.number (.integer 1)) (.number (.real one)) = true := by decide +kernel
  have heldBack : covers (.number (.real one)) (.number (.integer 1)) = true := by decide +kernel
  obtain ⟨byValue, _, transitive, small, ofJson, ofYaml⟩ :=
    covers_numbers_by_value wholeFits (doubleFits one)
  have unroundedFits : Fits (.integer 0x20000000000001) :=
    ofJson ⟨false, [9, 0, 0, 7, 1, 9, 9, 2, 5, 4, 7, 4, 0, 9, 9, 3], none, none⟩ _
      (by decide +kernel)
  have hexFits : Fits (.integer 1) := ofYaml none true "0x1" _ (by decide +kernel)
  obtain ⟨_, blurred, _⟩ := covers_numbers_by_value unroundedFits (doubleFits rounded)
  exact ⟨byValue sharp, blurred (.given nearest_rounded value_rounded),
    transitive _ hexFits sharp sharpBack held heldBack, small 1 rfl (by decide) held⟩

open NumbersSample in
/-- An integer satisfies the double next to it, and this double satisfies another integer,
but the two integers do not satisfy each other. -/
theorem covers_rounds_integers :
    (Fits (.integer 0x20000000000001) ∧ Fits (.integer 0x20000000000000)) ∧
      (covers (.number (.integer 0x20000000000001)) (.number (.real rounded)) = true ∧
        value (.integer 0x20000000000001) ≠ value (.real rounded)) ∧
      covers (.number (.real rounded)) (.number (.integer 0x20000000000000)) = true ∧
      covers (.number (.integer 0x20000000000001)) (.number (.integer 0x20000000000000)) =
        false := by
  have different : value (.integer 0x20000000000001) ≠ value (.real rounded) :=
    value_rounded.symm
  exact ⟨by decide, ⟨by decide +kernel, different⟩, by decide +kernel, by decide +kernel⟩

end Json

end CallPolicy
