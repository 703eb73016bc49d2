import CallPolicy.Binary64.Basic
import Mathlib.Algebra.Order.Field.Power
import Mathlib.Algebra.Order.Field.Rat
import Mathlib.Tactic.Linarith
import Mathlib.Tactic.NormNum
import Mathlib.Tactic.Positivity
import Mathlib.Tactic.Ring

/-!
Contract: doubles as rational numbers.

Owns:
- the rational that a double stands for, and that equal doubles are those of equal value;
- the order of doubles told from their exponents;
- what it means that a double is nearest to a rational, ties going to the even
  significand, and that this determines its value.

Does not own: how the nearest double is found.

## Why the nearest double is unique

Two different values that are equally near have the rational halfway between them, so no
double lies between the two. But above a double with an even significand the next one has
the same exponent and an odd significand, so two doubles with even significands always have
a third one between them.
-/

namespace CallPolicy.Binary64

/-! ### Values -/

/-- The distance of a double from zero. -/
def magnitude (number : Binary64) : ℚ := number.significand * 2 ^ number.exponent

/-- The rational that a double stands for. -/
def value (number : Binary64) : ℚ :=
  if number.negative then -number.magnitude else number.magnitude

/-- The double with the other sign. -/
def negated (number : Binary64) : Binary64 :=
  { number with negative := !number.negative }

theorem magnitude_nonneg (number : Binary64) : 0 ≤ number.magnitude := by
  unfold magnitude
  positivity

theorem value_negated (number : Binary64) : number.negated.value = -number.value := by
  unfold value
  cases sign : number.negative with
  | true => simp [negated, sign, magnitude]
  | false => simp [negated, sign, magnitude]

theorem negated_negated (number : Binary64) : number.negated.negated = number := by
  unfold negated
  rw [Bool.not_not]

theorem distance_negated (number : Binary64) (target : ℚ) :
    |number.negated.value - -target| = |number.value - target| := by
  rw [value_negated, neg_sub_neg, abs_sub_comm]

theorem abs_value (number : Binary64) : |number.value| = number.magnitude := by
  unfold value
  split
  · rw [abs_neg, abs_of_nonneg number.magnitude_nonneg]
  · exact abs_of_nonneg number.magnitude_nonneg

/-- The double one. -/
def one : Binary64 := ⟨false, 0x10000000000000, -52, by decide⟩

theorem value_one : one.value = 1 := by
  show ((0x10000000000000 : ℕ) : ℚ) * 2 ^ (-52 : ℤ) = 1
  norm_num

theorem value_zero (negative : Bool) : (zero negative).value = 0 := by
  cases negative <;> simp [value, magnitude, zero]

/-! ### Exponents and magnitudes -/

theorem magnitude_lt (number : Binary64) : number.magnitude < 2 ^ (53 + number.exponent) := by
  have bounded : (number.significand : ℚ) < 2 ^ (53 : ℤ) := by
    exact_mod_cast number.canonical.1
  unfold magnitude
  rw [zpow_add₀ two_ne_zero]
  exact mul_lt_mul_of_pos_right bounded (by positivity)

theorem le_magnitude {number : Binary64} (full : significandBound / 2 ≤ number.significand) :
    2 ^ (52 + number.exponent) ≤ number.magnitude := by
  have bounded : (2 : ℚ) ^ (52 : ℤ) ≤ number.significand := by
    exact_mod_cast full
  unfold magnitude
  rw [zpow_add₀ two_ne_zero]
  exact mul_le_mul_of_nonneg_right bounded (by positivity)

theorem magnitude_lt_of_exponent_lt {left right : Binary64}
    (below : left.exponent < right.exponent) : left.magnitude < right.magnitude := by
  have full : significandBound / 2 ≤ right.significand := by
    have lowest := left.canonical.2.1
    rcases right.canonical.2.2.2 with full | isLowest
    · exact full
    · omega
  calc left.magnitude < 2 ^ (53 + left.exponent) := left.magnitude_lt
    _ ≤ 2 ^ (52 + right.exponent) := zpow_le_zpow_right₀ (by norm_num) (by omega)
    _ ≤ right.magnitude := le_magnitude full

theorem exponent_le_of_magnitude_le {left right : Binary64}
    (le : left.magnitude ≤ right.magnitude) : left.exponent ≤ right.exponent := by
  by_contra above
  have greater := magnitude_lt_of_exponent_lt (not_le.mp above)
  linarith

/-- The magnitude determines significand and exponent. -/
theorem eq_of_magnitude_eq {left right : Binary64} (same : left.magnitude = right.magnitude) :
    left.significand = right.significand ∧ left.exponent = right.exponent := by
  have exponents : left.exponent = right.exponent :=
    le_antisymm (exponent_le_of_magnitude_le same.le) (exponent_le_of_magnitude_le same.ge)
  refine ⟨?_, exponents⟩
  unfold magnitude at same
  rw [exponents] at same
  have power : (2 : ℚ) ^ right.exponent ≠ 0 := by positivity
  exact_mod_cast mul_right_cancel₀ power same

theorem significand_eq_of_value_eq {left right : Binary64} (same : left.value = right.value) :
    left.significand = right.significand := by
  have magnitudes : left.magnitude = right.magnitude := by
    rw [← left.abs_value, ← right.abs_value, same]
  exact (eq_of_magnitude_eq magnitudes).1

/-- Doubles are equal exactly when they stand for the same rational. -/
theorem same_iff_value_eq {left right : Binary64} :
    left.same right = true ↔ left.value = right.value := by
  unfold same
  rw [Bool.and_eq_true, Bool.and_eq_true, Bool.or_eq_true, beq_iff_eq, beq_iff_eq, beq_iff_eq]
  constructor
  · rintro ⟨⟨significands, exponents⟩, signs⟩
    have magnitudes : left.magnitude = right.magnitude := by
      rw [magnitude, magnitude, significands, exponents]
    rcases signs with signs | isZero
    · rw [value, value, signs, magnitudes]
    · have nothing : left.magnitude = 0 := by
        have significand : left.significand = 0 := by simpa [Binary64.isZero] using isZero
        rw [magnitude, significand]
        simp
      rw [value, value, ← magnitudes, nothing]
      simp
  · intro same
    have magnitudes : left.magnitude = right.magnitude := by
      rw [← left.abs_value, ← right.abs_value, same]
    refine ⟨eq_of_magnitude_eq magnitudes, ?_⟩
    by_cases signs : left.negative = right.negative
    · exact Or.inl signs
    · have opposite : left.magnitude = -left.magnitude := by
        unfold value at same
        rw [← magnitudes] at same
        revert same signs
        cases left.negative <;> cases right.negative <;> simp [eq_comm]
      have nothing : left.magnitude = 0 := by linarith
      have power : (2 : ℚ) ^ left.exponent ≠ 0 := by positivity
      have significand : left.significand = 0 := by
        unfold magnitude at nothing
        exact_mod_cast (mul_eq_zero.mp nothing).resolve_right power
      exact Or.inr (by simp [Binary64.isZero, significand])

/-- A double is a multiple of every power of two up to its own. -/
theorem exists_multiple {number : Binary64} {exponent : ℤ} (le : exponent ≤ number.exponent) :
    ∃ multiple : ℕ, number.magnitude = multiple * 2 ^ exponent := by
  obtain ⟨distance, reaches⟩ := Int.le.dest le
  refine ⟨number.significand * 2 ^ distance, ?_⟩
  unfold magnitude
  rw [← reaches, zpow_add₀ two_ne_zero, zpow_natCast]
  push_cast
  ring

/-! ### Small integers -/

/-- A positive number below the bound has a full significand once it is shifted. -/
theorem full_of_log2 {count : ℕ} (positive : 0 < count) (small : count < significandBound) :
    count.log2 ≤ 52 ∧ significandBound / 2 ≤ count * 2 ^ (52 - count.log2) ∧
      count * 2 ^ (52 - count.log2) < significandBound := by
  have bits : count.log2 < 53 := (Nat.log2_lt positive.ne').mpr small
  have low := Nat.mul_le_mul_right (2 ^ (52 - count.log2)) (Nat.log2_self_le positive.ne')
  have high := Nat.mul_lt_mul_of_pos_right (@Nat.lt_log2_self count)
    (Nat.two_pow_pos (52 - count.log2))
  rw [← Nat.pow_add, show count.log2 + (52 - count.log2) = 52 by omega] at low
  rw [← Nat.pow_add, show count.log2 + 1 + (52 - count.log2) = 53 by omega] at high
  exact ⟨by omega, low, high⟩

theorem exists_value_natCast {count : ℕ} (small : count ≤ significandBound) :
    ∃ number : Binary64, number.value = count := by
  rcases Nat.eq_zero_or_pos count with rfl | positive
  · refine ⟨zero false, ?_⟩
    rw [value_zero, Nat.cast_zero]
  rcases Nat.lt_or_eq_of_le small with below | rfl
  · obtain ⟨bits, full, bounded⟩ := full_of_log2 positive below
    refine ⟨⟨false, count * 2 ^ (52 - count.log2), -((52 - count.log2 : ℕ) : ℤ), bounded, ?_, ?_,
      Or.inl full⟩, ?_⟩
    · unfold lowestExponent
      omega
    · unfold highestExponent
      omega
    · show ((count * 2 ^ (52 - count.log2) : ℕ) : ℚ) * 2 ^ (-((52 - count.log2 : ℕ) : ℤ)) = count
      rw [zpow_neg, zpow_natCast]
      push_cast
      exact mul_inv_cancel_right₀ (by positivity) _
  · refine ⟨⟨false, significandBound / 2, 1, by decide⟩, ?_⟩
    show ((significandBound / 2 : ℕ) : ℚ) * 2 ^ (1 : ℤ) = (significandBound : ℕ)
    norm_num [significandBound]

/-- Every integer up to the bound is a double. -/
theorem exists_value_intCast {integer : ℤ} (small : integer.natAbs ≤ significandBound) :
    ∃ number : Binary64, number.value = integer := by
  obtain ⟨number, isCount⟩ := exists_value_natCast small
  rcases Int.natAbs_eq integer with nonneg | negative
  · refine ⟨number, ?_⟩
    rw [isCount, nonneg]
    simp
  · refine ⟨number.negated, ?_⟩
    rw [value_negated, isCount, negative]
    simp

/-! ### Doubles between doubles -/

/-- The double above one with an even significand. -/
def above (number : Binary64) (even : number.significand % 2 = 0) : Binary64 where
  negative := false
  significand := number.significand + 1
  exponent := number.exponent
  canonical := by
    obtain ⟨bounded, lowest, highest, full⟩ := number.canonical
    unfold significandBound at bounded full
    refine ⟨?_, lowest, highest, ?_⟩
    · unfold significandBound
      omega
    · unfold significandBound
      omega

theorem magnitude_above (number : Binary64) (even : number.significand % 2 = 0) :
    (number.above even).magnitude = number.magnitude + 2 ^ number.exponent := by
  unfold magnitude above
  push_cast
  ring

/-- Above a double with an even significand the next double has an odd one. -/
theorem above_lt {left right : Binary64} (leftEven : left.significand % 2 = 0)
    (rightEven : right.significand % 2 = 0) (below : left.magnitude < right.magnitude) :
    (left.above leftEven).magnitude < right.magnitude := by
  have power : (0 : ℚ) < 2 ^ left.exponent := by positivity
  obtain ⟨multiple, isMultiple⟩ := exists_multiple (exponent_le_of_magnitude_le below.le)
  have exceeds : left.significand < multiple := by
    rw [isMultiple] at below
    change (left.significand : ℚ) * 2 ^ left.exponent < _ at below
    exact_mod_cast lt_of_mul_lt_mul_right below power.le
  have reached : (left.above leftEven).magnitude ≤ right.magnitude := by
    rw [isMultiple]
    unfold magnitude above
    apply mul_le_mul_of_nonneg_right _ power.le
    exact_mod_cast exceeds
  apply lt_of_le_of_ne reached
  intro same
  have significands : left.significand + 1 = right.significand := (eq_of_magnitude_eq same).1
  omega

theorem exists_between_of_nonneg {left right : Binary64} (leftEven : left.significand % 2 = 0)
    (rightEven : right.significand % 2 = 0) (nonneg : 0 ≤ left.value)
    (below : left.value < right.value) :
    ∃ between : Binary64, left.value < between.value ∧ between.value < right.value := by
  have leftMagnitude : left.value = left.magnitude := by
    rw [← left.abs_value, abs_of_nonneg nonneg]
  have rightMagnitude : right.value = right.magnitude := by
    rw [← right.abs_value, abs_of_nonneg (nonneg.trans below.le)]
  have isAbove : (left.above leftEven).value = (left.above leftEven).magnitude := rfl
  refine ⟨left.above leftEven, ?_, ?_⟩
  · have power : (0 : ℚ) < 2 ^ left.exponent := by positivity
    rw [leftMagnitude, isAbove, magnitude_above]
    linarith
  · rw [isAbove, rightMagnitude]
    rw [leftMagnitude, rightMagnitude] at below
    exact above_lt leftEven rightEven below

theorem exists_between {left right : Binary64} (leftEven : left.significand % 2 = 0)
    (rightEven : right.significand % 2 = 0) (below : left.value < right.value) :
    ∃ between : Binary64, left.value < between.value ∧ between.value < right.value := by
  by_cases leftNonneg : 0 ≤ left.value
  · exact exists_between_of_nonneg leftEven rightEven leftNonneg below
  by_cases rightPos : 0 < right.value
  · refine ⟨zero false, ?_, ?_⟩
    · rw [value_zero]
      exact not_le.mp leftNonneg
    · rw [value_zero]
      exact rightPos
  -- Both values are on the other side of zero, where the order is turned round.
  · have mirrored : 0 ≤ right.negated.value := by
      rw [value_negated]
      linarith
    have reversed : right.negated.value < left.negated.value := by
      rw [value_negated, value_negated]
      linarith
    have leftMirrored : left.negated.significand % 2 = 0 := leftEven
    have rightMirrored : right.negated.significand % 2 = 0 := rightEven
    obtain ⟨between, low, high⟩ :=
      exists_between_of_nonneg rightMirrored leftMirrored mirrored reversed
    rw [value_negated] at low high
    refine ⟨between.negated, ?_, ?_⟩
    · rw [value_negated]
      linarith
    · rw [value_negated]
      linarith

/-! ### Nearest doubles -/

/-- No double is nearer to the target, and if another value is as near, the significand is
even. -/
structure Nearest (target : ℚ) (number : Binary64) : Prop where
  closest : ∀ other : Binary64, |number.value - target| ≤ |other.value - target|
  even_of_tie : ∀ other : Binary64, other.value ≠ number.value →
    |other.value - target| = |number.value - target| → number.significand % 2 = 0

namespace Nearest

variable {target : ℚ} {left right : Binary64}

theorem value_not_lt (leftNearest : Nearest target left) (rightNearest : Nearest target right) :
    ¬ left.value < right.value := by
  intro below
  have tie : |left.value - target| = |right.value - target| :=
    le_antisymm (leftNearest.closest right) (rightNearest.closest left)
  have leftEven := leftNearest.even_of_tie right below.ne' tie.symm
  have rightEven := rightNearest.even_of_tie left below.ne tie
  obtain ⟨between, low, high⟩ := exists_between leftEven rightEven below
  have nearer := leftNearest.closest between
  rcases abs_cases (left.value - target) with ⟨leftAbs, _⟩ | ⟨leftAbs, _⟩ <;>
    rcases abs_cases (right.value - target) with ⟨rightAbs, _⟩ | ⟨rightAbs, _⟩ <;>
    rcases abs_cases (between.value - target) with ⟨betweenAbs, _⟩ | ⟨betweenAbs, _⟩ <;>
    linarith

/-- A rational has one nearest value. -/
theorem value_eq (leftNearest : Nearest target left) (rightNearest : Nearest target right) :
    left.value = right.value :=
  le_antisymm (not_lt.mp (rightNearest.value_not_lt leftNearest))
    (not_lt.mp (leftNearest.value_not_lt rightNearest))

theorem congr (nearest : Nearest target left) (same : left.value = right.value) :
    Nearest target right where
  closest := by
    intro other
    rw [← same]
    exact nearest.closest other
  even_of_tie := by
    intro other different tie
    rw [← significand_eq_of_value_eq same]
    rw [← same] at different tie
    exact nearest.even_of_tie other different tie

theorem value_le {bound : Binary64} (nearest : Nearest target left) (le : target ≤ bound.value) :
    left.value ≤ bound.value := by
  by_contra above
  have nearer := nearest.closest bound
  rw [abs_of_nonneg (by linarith), abs_of_nonneg (by linarith)] at nearer
  linarith

theorem negated (nearest : Nearest target left) : Nearest (-target) left.negated where
  closest := by
    intro other
    have mirrored := nearest.closest other.negated
    rw [← distance_negated left, ← distance_negated other.negated, negated_negated] at mirrored
    exact mirrored
  even_of_tie := by
    intro other different tie
    apply nearest.even_of_tie other.negated
    · intro same
      apply different
      rw [value_negated, ← same, value_negated, neg_neg]
    · rw [← distance_negated left, ← distance_negated other.negated, negated_negated]
      exact tie

theorem of_value (number : Binary64) : Nearest number.value number where
  closest := by
    intro other
    rw [sub_self, abs_zero]
    exact abs_nonneg _
  even_of_tie := by
    intro other different tie
    rw [sub_self, abs_zero, abs_eq_zero, sub_eq_zero] at tie
    exact absurd tie different

theorem le_value {bound : Binary64} (nearest : Nearest target left) (le : bound.value ≤ target) :
    bound.value ≤ left.value := by
  have mirrored : -target ≤ bound.negated.value := by
    rw [value_negated]
    linarith
  have below := nearest.negated.value_le mirrored
  rw [value_negated, value_negated] at below
  linarith

/-- A small integer is rounded to itself. -/
theorem value_eq_of_small {integer : ℤ} (nearest : Nearest integer left)
    (small : integer.natAbs ≤ significandBound) : left.value = integer := by
  obtain ⟨number, isInteger⟩ := exists_value_intCast small
  rw [← isInteger] at nearest ⊢
  exact nearest.value_eq (of_value number)

end Nearest

end CallPolicy.Binary64
