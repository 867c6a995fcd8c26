/-
This file proves that rounding onto the grid keeps the order of quotients. A smaller quotient has
a step that is not larger, and quotients with different steps are kept apart by a power of two.
-/

import Casework.Binary64.Grid

namespace Casework.Binary64

/-- Ordered fractions have ordered whole parts. -/
theorem div_le_div_of_mul_le {first second firstDivisor secondDivisor : Nat}
    (firstPositive : 0 < firstDivisor) (secondPositive : 0 < secondDivisor)
    (ordered : first * secondDivisor ≤ second * firstDivisor) :
    first / firstDivisor ≤ second / secondDivisor := by
  rw [Nat.le_div_iff_mul_le secondPositive]
  apply Nat.le_of_mul_le_mul_right _ firstPositive
  calc first / firstDivisor * secondDivisor * firstDivisor
      = first / firstDivisor * firstDivisor * secondDivisor := Nat.mul_right_comm _ _ _
    _ ≤ first * secondDivisor := Nat.mul_le_mul_right _ (Nat.div_mul_le_self _ _)
    _ ≤ second * firstDivisor := ordered

/-- Rounding does not go below the whole part. -/
theorem le_nearestEven (numerator denominator : Nat) :
    numerator / denominator ≤ nearestEven numerator denominator := by
  unfold nearestEven
  dsimp only
  split
  · exact Nat.le_refl _
  · split <;> omega

/-- Less than a half is rounded down. -/
theorem nearestEven_of_lt {numerator denominator : Nat}
    (below : 2 * (numerator % denominator) < denominator) :
    nearestEven numerator denominator = numerator / denominator := by
  unfold nearestEven
  exact if_pos below

/-- A half is rounded to the even neighbour. -/
theorem nearestEven_of_eq {numerator denominator : Nat}
    (half : 2 * (numerator % denominator) = denominator) :
    nearestEven numerator denominator =
      numerator / denominator + numerator / denominator % 2 := by
  have notBelow : ¬ 2 * (numerator % denominator) < denominator := by omega
  unfold nearestEven
  exact (if_neg notBelow).trans (if_pos half)

/-- More than a half is rounded up. -/
theorem nearestEven_of_gt {numerator denominator : Nat}
    (above : denominator < 2 * (numerator % denominator)) :
    nearestEven numerator denominator = numerator / denominator + 1 := by
  have notBelow : ¬ 2 * (numerator % denominator) < denominator := by omega
  have notHalf : ¬ 2 * (numerator % denominator) = denominator := by omega
  unfold nearestEven
  exact (if_neg notBelow).trans (if_neg notHalf)

section Comparison

variable {first second firstDivisor secondDivisor : Nat}

/-- Quotients with the same whole part are ordered like their rests. -/
theorem rest_le_of_div_eq (ordered : first * secondDivisor ≤ second * firstDivisor)
    (sameWhole : first / firstDivisor = second / secondDivisor) :
    first % firstDivisor * secondDivisor ≤ second % secondDivisor * firstDivisor := by
  have firstSplit : first * secondDivisor =
      firstDivisor * secondDivisor * (second / secondDivisor) +
        first % firstDivisor * secondDivisor := by
    rw [← sameWhole, Nat.mul_right_comm, ← Nat.add_mul, Nat.div_add_mod]
  have secondSplit : second * firstDivisor =
      firstDivisor * secondDivisor * (second / secondDivisor) +
        second % secondDivisor * firstDivisor := by
    rw [Nat.mul_comm firstDivisor, Nat.mul_right_comm, ← Nat.add_mul, Nat.div_add_mod]
  omega

/-- The nearest natural number keeps the order of quotients. -/
theorem nearestEven_le_nearestEven (firstPositive : 0 < firstDivisor)
    (secondPositive : 0 < secondDivisor)
    (ordered : first * secondDivisor ≤ second * firstDivisor) :
    nearestEven first firstDivisor ≤ nearestEven second secondDivisor := by
  have firstAbove := nearestEven_le first firstDivisor
  have secondBelow := le_nearestEven second secondDivisor
  rcases Nat.lt_or_eq_of_le (div_le_div_of_mul_le firstPositive secondPositive ordered) with
    less | same
  · omega
  · have rests : 2 * (first % firstDivisor) * secondDivisor ≤
        2 * (second % secondDivisor) * firstDivisor := by
      rw [Nat.mul_assoc, Nat.mul_assoc]
      exact Nat.mul_le_mul_left 2 (rest_le_of_div_eq ordered same)
    -- with equal whole parts only the sides of the halves matter
    rcases Nat.lt_trichotomy (2 * (second % secondDivisor)) secondDivisor with
      below | half | above
    · have alsoBelow : 2 * (first % firstDivisor) < firstDivisor := by
        apply Nat.lt_of_mul_lt_mul_right (a := secondDivisor)
        rw [Nat.mul_comm firstDivisor]
        exact Nat.lt_of_le_of_lt rests (Nat.mul_lt_mul_of_pos_right below firstPositive)
      exact Nat.le_of_eq (by rw [nearestEven_of_lt alsoBelow, nearestEven_of_lt below, same])
    · have atMostHalf : 2 * (first % firstDivisor) ≤ firstDivisor := by
        apply Nat.le_of_mul_le_mul_right _ secondPositive
        rw [half, Nat.mul_comm secondDivisor] at rests
        exact rests
      rw [nearestEven_of_eq half, ← same]
      rcases Nat.lt_or_eq_of_le atMostHalf with alsoBelow | alsoHalf
      · rw [nearestEven_of_lt alsoBelow]
        exact Nat.le_add_right _ _
      · exact Nat.le_of_eq (nearestEven_of_eq alsoHalf)
    · rw [nearestEven_of_gt above, ← same]
      exact firstAbove

end Comparison

theorem log2_le_log2 {first second : Nat} (ordered : first ≤ second) :
    first.log2 ≤ second.log2 := by
  by_cases zero : first = 0
  · rw [zero, Nat.log2_zero]
    exact Nat.zero_le _
  · have positive : second ≠ 0 := by omega
    rw [Nat.le_log2 positive]
    exact Nat.le_trans (Nat.log2_self_le zero) ordered

/-- Larger numbers are no closer together. -/
theorem spacing_le_spacing {first second : Nat} (ordered : first ≤ second) :
    spacing first ≤ spacing second := by
  have logs := log2_le_log2 ordered
  unfold spacing
  omega

/-- A rounded quotient has at most fifty-three bits above the step, or is the next power. -/
theorem roundToGrid_le_top (numerator denominator : Nat) :
    roundToGrid numerator denominator ≤
      step (numerator / denominator) * Nat.pow 2 53 := by
  apply Nat.mul_le_mul_left
  apply Nat.le_trans (nearestEven_le _ _)
  rw [← Nat.div_div_eq_div_mul]
  apply Nat.div_lt_of_lt_mul
  rw [Nat.mul_comm]
  exact lt_mul_step (numerator / denominator)

/-- A quotient with a spacing has fifty-three bits, and rounding leaves at least as many. -/
theorem bottom_le_roundToGrid {numerator denominator : Nat}
    (spaced : 0 < spacing (numerator / denominator)) :
    step (numerator / denominator) * Nat.pow 2 52 ≤ roundToGrid numerator denominator := by
  apply Nat.mul_le_mul_left
  apply Nat.le_trans _ (le_nearestEven _ _)
  rw [← Nat.div_div_eq_div_mul, Nat.le_div_iff_mul_le (step_pos _)]
  unfold spacing at spaced
  have nonzero : numerator / denominator ≠ 0 := by
    intro zero
    rw [zero, Nat.log2_zero] at spaced
    omega
  have exponent : 52 + spacing (numerator / denominator) = (numerator / denominator).log2 := by
    unfold spacing
    omega
  change 2 ^ 52 * 2 ^ spacing (numerator / denominator) ≤ numerator / denominator
  rw [← Nat.pow_add, exponent]
  exact Nat.log2_self_le nonzero

/-- Rounding keeps the order of quotients. -/
theorem roundToGrid_le_roundToGrid {first second firstDivisor secondDivisor : Nat}
    (firstPositive : 0 < firstDivisor) (secondPositive : 0 < secondDivisor)
    (ordered : first * secondDivisor ≤ second * firstDivisor) :
    roundToGrid first firstDivisor ≤ roundToGrid second secondDivisor := by
  have wholes := div_le_div_of_mul_le firstPositive secondPositive ordered
  rcases Nat.lt_or_eq_of_le (spacing_le_spacing wholes) with narrower | same
  · -- the larger quotient is at least the power of two that bounds the smaller one
    have steps : step (first / firstDivisor) * 2 ≤ step (second / secondDivisor) := by
      change 2 ^ spacing (first / firstDivisor) * 2 ≤ 2 ^ spacing (second / secondDivisor)
      rw [← Nat.pow_succ]
      exact Nat.pow_le_pow_right (by decide) narrower
    have double : Nat.pow 2 53 = 2 * Nat.pow 2 52 := by decide
    calc roundToGrid first firstDivisor
        ≤ step (first / firstDivisor) * Nat.pow 2 53 := roundToGrid_le_top _ _
      _ = step (first / firstDivisor) * 2 * Nat.pow 2 52 := by rw [double, Nat.mul_assoc]
      _ ≤ step (second / secondDivisor) * Nat.pow 2 52 := Nat.mul_le_mul_right _ steps
      _ ≤ roundToGrid second secondDivisor :=
          bottom_le_roundToGrid (Nat.lt_of_le_of_lt (Nat.zero_le _) narrower)
  · have sameStep : step (first / firstDivisor) = step (second / secondDivisor) := by
      unfold step
      rw [same]
    unfold roundToGrid
    dsimp only
    rw [sameStep]
    apply Nat.mul_le_mul_left
    apply nearestEven_le_nearestEven (Nat.mul_pos firstPositive (step_pos _))
      (Nat.mul_pos secondPositive (step_pos _))
    rw [← Nat.mul_assoc, ← Nat.mul_assoc]
    exact Nat.mul_le_mul_right _ ordered

theorem roundToGrid_zero (denominator : Nat) : roundToGrid 0 denominator = 0 := by
  have nothing : nearestEven 0 (denominator * step (0 / denominator)) = 0 := by
    unfold nearestEven
    simp only [Nat.zero_div, Nat.zero_mod, Nat.mul_zero]
    split
    · rfl
    · split
      · rfl
      · omega
  unfold roundToGrid
  dsimp only
  rw [nothing, Nat.mul_zero]

end Casework.Binary64
