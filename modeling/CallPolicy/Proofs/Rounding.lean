import CallPolicy.Proofs.Doubles
import Mathlib.Algebra.Order.Archimedean.Basic
import Mathlib.Tactic.FieldSimp

/-!
Contract: rounding finds the nearest double.

Owns:
- the integer nearest to a ratio, with a half going to the even one;
- the power of two below a ratio;
- that a ratio, and so an integer, is rounded to the nearest double, and that small ones
  are always rounded to one.

Does not own: numbers beyond the largest double.

## Why a grid is enough

The significand is found on the grid of multiples of one power of two. A double that is not
on this grid has a smaller exponent. Then the grid is not the finest one, the ratio lies at
or above the first full significand of the grid, and the double lies below it.
-/

namespace CallPolicy.Binary64

/-! ### The nearest integer -/

section Halves

variable (numerator : ℕ) {denominator : ℕ}

theorem ratio_eq (positive : 0 < denominator) :
    (numerator : ℚ) / denominator =
      (numerator / denominator : ℕ) + (numerator % denominator : ℕ) / (denominator : ℚ) := by
  have split : (numerator : ℚ) =
      denominator * (numerator / denominator : ℕ) + (numerator % denominator : ℕ) := by
    exact_mod_cast (Nat.div_add_mod numerator denominator).symm
  have nonzero : (denominator : ℚ) ≠ 0 := by exact_mod_cast positive.ne'
  rw [eq_comm, eq_div_iff nonzero, add_mul, div_mul_cancel₀ _ nonzero]
  linarith

/-- The rounded ratio is within a half, and a half away only where it is even. -/
theorem roundHalfEven_near (positive : 0 < denominator) :
    |(roundHalfEven numerator denominator : ℚ) - numerator / denominator| ≤ 1 / 2 ∧
      (roundHalfEven numerator denominator % 2 = 1 →
        |(roundHalfEven numerator denominator : ℚ) - numerator / denominator| < 1 / 2) := by
  have pos : (0 : ℚ) < denominator := by exact_mod_cast positive
  have remainderLt : ((numerator % denominator : ℕ) : ℚ) < denominator := by
    exact_mod_cast Nat.mod_lt numerator positive
  rw [ratio_eq numerator positive]
  unfold roundHalfEven
  simp only []
  generalize numerator / denominator = quotient
  generalize numerator % denominator = remainder at remainderLt
  have fractionNonneg : (0 : ℚ) ≤ remainder / denominator := by positivity
  have fractionLt : (remainder : ℚ) / denominator < 1 := (div_lt_one pos).mpr remainderLt
  have lessHalf : 2 * remainder < denominator ↔ (remainder : ℚ) / denominator < 1 / 2 := by
    rw [div_lt_div_iff₀ pos two_pos, one_mul, mul_comm]
    norm_cast
  have moreHalf : denominator < 2 * remainder ↔ 1 / 2 < (remainder : ℚ) / denominator := by
    rw [div_lt_div_iff₀ two_pos pos, one_mul, mul_comm]
    norm_cast
  simp only [lessHalf, moreHalf]
  generalize (remainder : ℚ) / denominator = fraction at *
  have down : |(quotient : ℚ) - (quotient + fraction)| = fraction := by
    rw [sub_add_cancel_left, abs_neg, abs_of_nonneg fractionNonneg]
  have up : |((quotient + 1 : ℕ) : ℚ) - (quotient + fraction)| = 1 - fraction := by
    push_cast
    rw [add_sub_add_left_eq_sub, abs_of_nonneg (by linarith)]
  by_cases less : fraction < 1 / 2
  · rw [if_pos less, down]
    exact ⟨less.le, fun _ => less⟩
  rw [if_neg less]
  by_cases more : 1 / 2 < fraction
  · rw [if_pos more, up]
    exact ⟨by linarith, fun _ => by linarith⟩
  rw [if_neg more]
  by_cases even : quotient % 2 = 0
  · rw [if_pos even, down]
    exact ⟨by linarith, fun odd => by omega⟩
  · rw [if_neg even, up]
    exact ⟨by linarith, fun odd => by omega⟩

/-- No integer is nearer to the ratio, and none is as near if the rounded one is odd. -/
theorem roundHalfEven_closest (positive : 0 < denominator) (other : ℤ) :
    |(roundHalfEven numerator denominator : ℚ) - numerator / denominator| ≤
        |(other : ℚ) - numerator / denominator| ∧
      (roundHalfEven numerator denominator % 2 = 1 →
        other ≠ roundHalfEven numerator denominator →
          |(roundHalfEven numerator denominator : ℚ) - numerator / denominator| <
            |(other : ℚ) - numerator / denominator|) := by
  obtain ⟨near, nearer⟩ := roundHalfEven_near numerator positive
  generalize roundHalfEven numerator denominator = rounded at *
  generalize (numerator : ℚ) / denominator = ratio at *
  by_cases same : other = rounded
  · rw [same]
    exact ⟨le_refl _, fun _ different => absurd rfl different⟩
  · have apart : (1 : ℚ) ≤ |(other : ℚ) - rounded| := by
      have distinct : (1 : ℤ) ≤ |other - rounded| := Int.one_le_abs (sub_ne_zero.mpr same)
      exact_mod_cast distinct
    have triangle := abs_sub_le (other : ℚ) ratio rounded
    rw [abs_sub_comm ratio] at triangle
    refine ⟨by linarith, fun odd _ => ?_⟩
    have strict := nearer odd
    linarith

end Halves

/-! ### Powers of two -/

section Scale

variable (numerator : ℕ) {denominator : ℕ}

theorem scaled_pos (positive : 0 < denominator) (power : ℤ) :
    0 < (scaled numerator denominator power).2 := by
  unfold scaled
  split
  · exact positive
  · exact Nat.mul_pos positive (Nat.two_pow_pos _)

theorem scaled_ratio (positive : 0 < denominator) (power : ℤ) :
    ((scaled numerator denominator power).1 : ℚ) / (scaled numerator denominator power).2 =
      numerator / denominator * 2 ^ power := by
  have nonzero : (denominator : ℚ) ≠ 0 := by exact_mod_cast positive.ne'
  unfold scaled
  split
  · rename_i nonneg
    obtain ⟨exponent, rfl⟩ := Int.eq_ofNat_of_zero_le nonneg
    simp only [Int.toNat_natCast, Nat.pow_eq, zpow_natCast]
    push_cast
    ring
  · rename_i negative
    obtain ⟨exponent, isExponent⟩ := Int.eq_ofNat_of_zero_le (show 0 ≤ -power by omega)
    have isPower : power = -(exponent : ℤ) := by omega
    rw [isExponent, isPower, zpow_neg, zpow_natCast]
    simp only [Int.toNat_natCast, Nat.pow_eq]
    push_cast
    field_simp

/-- A positive ratio lies between the power of two that is found and the next one. -/
theorem floorLog2_bounds {numerator : ℕ} (positive : 0 < numerator)
    (denominatorPositive : 0 < denominator) :
    2 ^ floorLog2 numerator denominator ≤ (numerator : ℚ) / denominator ∧
      (numerator : ℚ) / denominator < 2 ^ (floorLog2 numerator denominator + 1) := by
  have pos : (0 : ℚ) < denominator := by exact_mod_cast denominatorPositive
  have numeratorLe : (2 : ℚ) ^ numerator.log2 ≤ numerator := by
    exact_mod_cast Nat.log2_self_le positive.ne'
  have numeratorLt : (numerator : ℚ) < 2 ^ (numerator.log2 + 1) := by
    exact_mod_cast Nat.lt_log2_self
  have denominatorLe : (2 : ℚ) ^ denominator.log2 ≤ denominator := by
    exact_mod_cast Nat.log2_self_le denominatorPositive.ne'
  have denominatorLt : (denominator : ℚ) < 2 ^ (denominator.log2 + 1) := by
    exact_mod_cast Nat.lt_log2_self
  -- The two logarithms leave the ratio between half the guessed power and its double.
  have least : (2 : ℚ) ^ ((numerator.log2 : ℤ) - denominator.log2 - 1) ≤
      numerator / denominator := by
    rw [le_div_iff₀ pos]
    calc (2 : ℚ) ^ ((numerator.log2 : ℤ) - denominator.log2 - 1) * denominator
        ≤ 2 ^ ((numerator.log2 : ℤ) - denominator.log2 - 1) * 2 ^ (denominator.log2 + 1) :=
          mul_le_mul_of_nonneg_left denominatorLt.le (by positivity)
      _ = 2 ^ numerator.log2 := by
          rw [← zpow_natCast, ← zpow_natCast, ← zpow_add₀ two_ne_zero]
          congr 1
          push_cast
          ring
      _ ≤ numerator := numeratorLe
  have greatest : (numerator : ℚ) / denominator <
      2 ^ ((numerator.log2 : ℤ) - denominator.log2 + 1) := by
    rw [div_lt_iff₀ pos]
    calc (numerator : ℚ) < 2 ^ (numerator.log2 + 1) := numeratorLt
      _ = 2 ^ ((numerator.log2 : ℤ) - denominator.log2 + 1) * 2 ^ denominator.log2 := by
          rw [← zpow_natCast, ← zpow_natCast, ← zpow_add₀ two_ne_zero]
          congr 1
          push_cast
          ring
      _ ≤ 2 ^ ((numerator.log2 : ℤ) - denominator.log2 + 1) * denominator :=
          mul_le_mul_of_nonneg_left denominatorLe (by positivity)
  unfold floorLog2
  simp only []
  generalize (numerator.log2 : ℤ) - denominator.log2 = guess at *
  have guessPos : (0 : ℚ) < 2 ^ guess := by positivity
  have scaledPos : (0 : ℚ) < (scaled numerator denominator (-guess)).2 := by
    exact_mod_cast scaled_pos numerator denominatorPositive (-guess)
  have decides : (scaled numerator denominator (-guess)).1 <
      (scaled numerator denominator (-guess)).2 ↔
        (numerator : ℚ) / denominator < 2 ^ guess := by
    rw [← @Nat.cast_lt ℚ, ← div_lt_one scaledPos, scaled_ratio numerator denominatorPositive,
      zpow_neg, ← div_eq_mul_inv, div_lt_one guessPos]
  by_cases below : (scaled numerator denominator (-guess)).1 <
      (scaled numerator denominator (-guess)).2
  · rw [if_pos below, sub_add_cancel]
    exact ⟨least, decides.mp below⟩
  · rw [if_neg below]
    exact ⟨not_lt.mp fun less => below (decides.mpr less), greatest⟩

end Scale

/-! ### The grid of a ratio -/

/-- The power of two of the grid on which a ratio is rounded. -/
def gridExponent (numerator denominator : ℕ) : ℤ :=
  max lowestExponent (floorLog2 numerator denominator - 52)

/-- The place on its grid to which a ratio is rounded. -/
def gridPlace (numerator denominator : ℕ) : ℕ :=
  let ratio := scaled numerator denominator (-gridExponent numerator denominator)
  roundHalfEven ratio.1 ratio.2

section Grid

variable {numerator denominator : ℕ}

theorem ratio_lt_grid (positive : 0 < numerator) (denominatorPositive : 0 < denominator) :
    (numerator : ℚ) / denominator < 2 ^ (53 + gridExponent numerator denominator) := by
  have bound := (floorLog2_bounds positive denominatorPositive).2
  have reach : floorLog2 numerator denominator - 52 ≤ gridExponent numerator denominator :=
    le_max_right _ _
  calc (numerator : ℚ) / denominator < 2 ^ (floorLog2 numerator denominator + 1) := bound
    _ ≤ 2 ^ (53 + gridExponent numerator denominator) :=
      zpow_le_zpow_right₀ (by norm_num) (by omega)

/-- Unless the grid is the finest one, the ratio has a full significand on it. -/
theorem grid_le_ratio (positive : 0 < numerator) (denominatorPositive : 0 < denominator)
    (coarser : gridExponent numerator denominator ≠ lowestExponent) :
    2 ^ (52 + gridExponent numerator denominator) ≤ (numerator : ℚ) / denominator := by
  have reach : gridExponent numerator denominator = floorLog2 numerator denominator - 52 := by
    rcases max_choice lowestExponent (floorLog2 numerator denominator - 52) with low | high
    · exact absurd low coarser
    · exact high
  rw [reach, show (52 : ℤ) + (floorLog2 numerator denominator - 52) =
    floorLog2 numerator denominator by ring]
  exact (floorLog2_bounds positive denominatorPositive).1

theorem gridPlace_near (numerator : ℕ) (denominatorPositive : 0 < denominator) :
    |(gridPlace numerator denominator : ℚ) -
      numerator / denominator * 2 ^ (-gridExponent numerator denominator)| ≤ 1 / 2 := by
  have denominators := scaled_pos numerator denominatorPositive
    (-gridExponent numerator denominator)
  rw [← scaled_ratio numerator denominatorPositive]
  exact (roundHalfEven_near _ denominators).1

/-- On the grid no place is nearer to the ratio than the one it is rounded to. -/
theorem gridPlace_closest (numerator : ℕ) (denominatorPositive : 0 < denominator) (other : ℤ) :
    |(gridPlace numerator denominator : ℚ) * 2 ^ gridExponent numerator denominator -
          numerator / denominator| ≤
        |(other : ℚ) * 2 ^ gridExponent numerator denominator - numerator / denominator| ∧
      (gridPlace numerator denominator % 2 = 1 → other ≠ gridPlace numerator denominator →
        |(gridPlace numerator denominator : ℚ) * 2 ^ gridExponent numerator denominator -
            numerator / denominator| <
          |(other : ℚ) * 2 ^ gridExponent numerator denominator - numerator / denominator|) := by
  have closest := roundHalfEven_closest
    (scaled numerator denominator (-gridExponent numerator denominator)).1
    (scaled_pos numerator denominatorPositive (-gridExponent numerator denominator)) other
  have power : (0 : ℚ) < 2 ^ gridExponent numerator denominator := by positivity
  have spread : ∀ place : ℚ,
      |place * 2 ^ gridExponent numerator denominator - numerator / denominator| =
        |place - numerator / denominator * 2 ^ (-gridExponent numerator denominator)| *
          2 ^ gridExponent numerator denominator := by
    intro place
    rw [← abs_of_pos power, ← abs_mul, abs_of_pos power, sub_mul, mul_assoc,
      ← zpow_add₀ two_ne_zero, neg_add_cancel, zpow_zero, mul_one]
  rw [scaled_ratio numerator denominatorPositive] at closest
  change |(gridPlace numerator denominator : ℚ) - _| ≤ _ ∧
    (gridPlace numerator denominator % 2 = 1 → other ≠ gridPlace numerator denominator →
      |(gridPlace numerator denominator : ℚ) - _| < _) at closest
  rw [spread, spread]
  exact ⟨mul_le_mul_of_nonneg_right closest.1 power.le,
    fun odd different => mul_lt_mul_of_pos_right (closest.2 odd different) power⟩

/-- No double is nearer to a positive ratio than its place on the grid, and none is as near
if that place is odd. -/
theorem gridPlace_nearest (positive : 0 < numerator) (denominatorPositive : 0 < denominator)
    (other : Binary64) :
    |(gridPlace numerator denominator : ℚ) * 2 ^ gridExponent numerator denominator -
          numerator / denominator| ≤ |other.value - numerator / denominator| ∧
      (gridPlace numerator denominator % 2 = 1 →
        other.value ≠ gridPlace numerator denominator * 2 ^ gridExponent numerator denominator →
          |(gridPlace numerator denominator : ℚ) * 2 ^ gridExponent numerator denominator -
              numerator / denominator| < |other.value - numerator / denominator|) := by
  by_cases onGrid : gridExponent numerator denominator ≤ other.exponent
  · obtain ⟨multiple, isMultiple⟩ := exists_multiple onGrid
    obtain ⟨place, isPlace⟩ : ∃ place : ℤ,
        other.value = place * 2 ^ gridExponent numerator denominator := by
      unfold value
      split
      · exact ⟨-multiple, by rw [isMultiple]; push_cast; ring⟩
      · exact ⟨multiple, by rw [isMultiple]; push_cast; ring⟩
    obtain ⟨closest, strictly⟩ := gridPlace_closest numerator denominatorPositive place
    rw [isPlace]
    refine ⟨closest, fun odd different => strictly odd ?_⟩
    rintro rfl
    exact different (by push_cast; rfl)
  -- Off the grid the double lies below the first full place, and so does not compete with it.
  · have coarser : gridExponent numerator denominator ≠ lowestExponent := by
      intro finest
      have lowest := other.canonical.2.1
      omega
    have full := grid_le_ratio positive denominatorPositive coarser
    have short : other.value < 2 ^ (52 + gridExponent numerator denominator) :=
      calc other.value ≤ |other.value| := le_abs_self _
        _ = other.magnitude := other.abs_value
        _ < 2 ^ (53 + other.exponent) := other.magnitude_lt
        _ ≤ 2 ^ (52 + gridExponent numerator denominator) :=
          zpow_le_zpow_right₀ (by norm_num) (by omega)
    have firstPlace : ((2 ^ 52 : ℤ) : ℚ) * 2 ^ gridExponent numerator denominator =
        2 ^ (52 + gridExponent numerator denominator) := by
      rw [zpow_add₀ two_ne_zero]
      norm_num
    have closest := (gridPlace_closest numerator denominatorPositive (2 ^ 52)).1
    rw [firstPlace, abs_of_nonpos (sub_nonpos.mpr full)] at closest
    have farther : |(gridPlace numerator denominator : ℚ) *
        2 ^ gridExponent numerator denominator - numerator / denominator| <
          |other.value - numerator / denominator| := by
      rw [abs_of_nonpos (sub_nonpos.mpr (short.trans_le full).le)]
      linarith
    exact ⟨farther.le, fun _ _ => farther⟩

theorem gridPlace_le (positive : 0 < numerator) (denominatorPositive : 0 < denominator) :
    gridPlace numerator denominator ≤ significandBound := by
  have near := gridPlace_near numerator denominatorPositive
  have short : (numerator : ℚ) / denominator * 2 ^ (-gridExponent numerator denominator) <
      2 ^ (53 : ℤ) := by
    have bound := ratio_lt_grid positive denominatorPositive
    rw [zpow_neg, ← div_eq_mul_inv, div_lt_iff₀ (by positivity), ← zpow_add₀ two_ne_zero]
    exact bound
  have upper := (abs_le.mp near).2
  have cast : (gridPlace numerator denominator : ℚ) < significandBound + 1 := by
    have isBound : (significandBound : ℚ) = 2 ^ (53 : ℤ) := by norm_num [significandBound]
    rw [isBound]
    linarith
  have below : gridPlace numerator denominator < significandBound + 1 := by exact_mod_cast cast
  omega

theorem le_gridPlace (positive : 0 < numerator) (denominatorPositive : 0 < denominator)
    (coarser : gridExponent numerator denominator ≠ lowestExponent) :
    significandBound / 2 ≤ gridPlace numerator denominator := by
  have near := gridPlace_near numerator denominatorPositive
  have full : (2 : ℚ) ^ (52 : ℤ) ≤
      numerator / denominator * 2 ^ (-gridExponent numerator denominator) := by
    have bound := grid_le_ratio positive denominatorPositive coarser
    rw [zpow_neg, ← div_eq_mul_inv, le_div_iff₀ (by positivity), ← zpow_add₀ two_ne_zero]
    exact bound
  have lower := (abs_le.mp near).1
  have cast : ((significandBound / 2 : ℕ) : ℚ) < gridPlace numerator denominator + 1 := by
    have isBound : ((significandBound / 2 : ℕ) : ℚ) = 2 ^ (52 : ℤ) := by
      norm_num [significandBound]
    rw [isBound]
    linarith
  have below : significandBound / 2 < gridPlace numerator denominator + 1 := by
    exact_mod_cast cast
  omega

end Grid

/-! ### Rounding -/

/-- A place on a grid as significand and exponent: the place past the last one is the first
of the next grid. -/
def carried (place : ℕ) (exponent : ℤ) : ℕ × ℤ :=
  if place = significandBound then (significandBound / 2, exponent + 1) else (place, exponent)

section Carry

variable {place : ℕ} {exponent : ℤ}

theorem carried_value (place : ℕ) (exponent : ℤ) :
    ((carried place exponent).1 : ℚ) * 2 ^ (carried place exponent).2 = place * 2 ^ exponent := by
  unfold carried
  split
  · rename_i last
    have half : (place : ℚ) = (significandBound / 2 : ℕ) * 2 := by
      rw [last]
      norm_num [significandBound]
    rw [half, zpow_add₀ two_ne_zero]
    ring
  · rfl

theorem odd_of_carried (odd : (carried place exponent).1 % 2 = 1) : place % 2 = 1 := by
  unfold carried at odd
  split at odd
  · exact absurd odd (show ¬ significandBound / 2 % 2 = 1 by decide)
  · exact odd

theorem carried_canonical (short : place ≤ significandBound)
    (full : exponent ≠ lowestExponent → significandBound / 2 ≤ place)
    (lowest : lowestExponent ≤ exponent) (highest : exponent < highestExponent) :
    CanonicalDouble (carried place exponent).1 (carried place exponent).2 := by
  unfold carried
  split
  · have halved : significandBound / 2 < significandBound := by decide
    exact ⟨halved, by omega, by omega, Or.inl (le_refl _)⟩
  · rename_i notLast
    refine ⟨by omega, lowest, highest.le, ?_⟩
    by_cases finest : exponent = lowestExponent
    · exact Or.inr finest
    · exact Or.inl (full finest)

end Carry

section Round

variable {numerator denominator : ℕ} {negative : Bool} {rounded : Binary64}

theorem roundRatio_of_pos (positive : 0 < numerator) :
    roundRatio negative numerator denominator =
      let spelled := carried (gridPlace numerator denominator) (gridExponent numerator denominator)
      if canonical : CanonicalDouble spelled.1 spelled.2 then
        some ⟨negative, spelled.1, spelled.2, canonical⟩
      else
        none := by
  unfold roundRatio
  rw [if_neg positive.ne']
  rfl

/-- A positive ratio is rounded to its place on the grid. -/
theorem place_of_roundRatio (positive : 0 < numerator)
    (found : roundRatio negative numerator denominator = some rounded) :
    rounded.negative = negative ∧
      rounded.magnitude =
        gridPlace numerator denominator * 2 ^ gridExponent numerator denominator ∧
      (rounded.significand % 2 = 1 → gridPlace numerator denominator % 2 = 1) := by
  rw [roundRatio_of_pos positive] at found
  simp only [] at found
  split at found
  · cases found
    exact ⟨rfl, carried_value _ _, odd_of_carried⟩
  · cases found

theorem nearest_of_place (positive : 0 < numerator) (denominatorPositive : 0 < denominator)
    (isPlace : rounded.value =
      gridPlace numerator denominator * 2 ^ gridExponent numerator denominator)
    (odd : rounded.significand % 2 = 1 → gridPlace numerator denominator % 2 = 1) :
    Nearest (numerator / denominator) rounded where
  closest := by
    intro other
    rw [isPlace]
    exact (gridPlace_nearest positive denominatorPositive other).1
  even_of_tie := by
    intro other different tie
    rcases Nat.mod_two_eq_zero_or_one rounded.significand with even | isOdd
    · exact even
    · rw [isPlace] at different tie
      have nearer := (gridPlace_nearest positive denominatorPositive other).2 (odd isOdd) different
      exact absurd tie nearer.ne'

/-- A ratio is rounded to the nearest double. -/
theorem roundRatio_nearest (denominatorPositive : 0 < denominator)
    (found : roundRatio negative numerator denominator = some rounded) :
    Nearest (if negative then -((numerator : ℚ) / denominator) else numerator / denominator)
      rounded := by
  rcases Nat.eq_zero_or_pos numerator with rfl | positive
  · cases found
    have isZero : (if negative then -(((0 : ℕ) : ℚ) / denominator) else ((0 : ℕ) : ℚ) / denominator) =
        (zero negative).value := by
      rw [value_zero]
      simp
    rw [isZero]
    exact Nearest.of_value _
  · obtain ⟨sign, isPlace, odd⟩ := place_of_roundRatio positive found
    cases negative with
    | false =>
      have isMagnitude : rounded.value = rounded.magnitude := by simp [value, sign]
      exact nearest_of_place positive denominatorPositive (isMagnitude.trans isPlace) odd
    | true =>
      have isMagnitude : rounded.negated.value = rounded.magnitude := by
        rw [value_negated, value, sign]
        simp
      have mirrored : Nearest (numerator / denominator) rounded.negated :=
        nearest_of_place positive denominatorPositive (isMagnitude.trans isPlace) odd
      rw [← rounded.negated_negated]
      exact mirrored.negated

theorem roundRatio_some (denominatorPositive : 0 < denominator)
    (small : (numerator : ℚ) / denominator < 2 ^ (1023 : ℤ)) :
    ∃ rounded, roundRatio negative numerator denominator = some rounded := by
  rcases Nat.eq_zero_or_pos numerator with rfl | positive
  · exact ⟨zero negative, rfl⟩
  · have belowHighest : gridExponent numerator denominator < highestExponent := by
      have power := (floorLog2_bounds positive denominatorPositive).1.trans_lt small
      have exponents := (zpow_lt_zpow_iff_right₀ (by norm_num : (1 : ℚ) < 2)).mp power
      unfold gridExponent lowestExponent highestExponent
      omega
    have canonical := carried_canonical (gridPlace_le positive denominatorPositive)
      (le_gridPlace positive denominatorPositive) (le_max_left _ _) belowHighest
    rw [roundRatio_of_pos positive]
    exact ⟨_, dif_pos canonical⟩

end Round

/-! ### Integers -/

theorem natAbs_ratio (integer : ℤ) :
    (if decide (integer < 0) then -((integer.natAbs : ℚ) / (1 : ℕ))
      else (integer.natAbs : ℚ) / (1 : ℕ)) = integer := by
  by_cases negative : integer < 0
  · simp [negative, abs_of_neg negative]
  · simp [negative, abs_of_nonneg (not_lt.mp negative)]

/-- An integer is converted to the nearest double. -/
theorem ofInt?_nearest {integer : ℤ} {rounded : Binary64} (found : ofInt? integer = some rounded) :
    Nearest integer rounded := by
  have nearest := roundRatio_nearest Nat.one_pos found
  rw [natAbs_ratio] at nearest
  exact nearest

theorem ofInt?_some {integer : ℤ} (small : integer.natAbs < 2 ^ 64) :
    ∃ rounded, ofInt? integer = some rounded := by
  apply roundRatio_some Nat.one_pos
  have bits : (integer.natAbs : ℚ) < 2 ^ (64 : ℤ) := by exact_mod_cast small
  rw [Nat.cast_one, div_one]
  exact bits.trans_le (zpow_le_zpow_right₀ (by norm_num) (by norm_num))

end CallPolicy.Binary64
