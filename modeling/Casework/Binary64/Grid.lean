/-
This file defines the grid of finite binary64 magnitudes and the rounding onto it.
A magnitude is a count of units of `2 ^ -1074`, so rounding is arithmetic on natural numbers.
-/

namespace Casework.Binary64

/-- One whole holds this many units of `2 ^ -1074`. -/
@[irreducible]
def unitsPerOne : Nat := Nat.pow 2 1074

/-- Every finite count stays below this bound. -/
@[irreducible]
def countLimit : Nat := Nat.pow 2 2098

/-- Neighbours of a count on the grid are `2 ^ spacing count` units apart. -/
def spacing (count : Nat) : Nat := count.log2 - 52

/-- This is the distance of neighbours in units. -/
def step (count : Nat) : Nat := Nat.pow 2 (spacing count)

/-- A count lies on the grid when it has at most fifty-three significant bits. -/
def OnGrid (count : Nat) : Prop :=
  count < countLimit ∧ step count ∣ count

instance (count : Nat) : Decidable (OnGrid count) :=
  inferInstanceAs (Decidable (_ ∧ _))

/-- The quotient is rounded to the nearest natural number, and a half goes to the even one. -/
def nearestEven (numerator denominator : Nat) : Nat :=
  let quotient := numerator / denominator
  let rest := numerator % denominator
  if 2 * rest < denominator then quotient
  else if 2 * rest = denominator then quotient + quotient % 2
  else quotient + 1

/-- The quotient is rounded to the nearest count with at most fifty-three significant bits. -/
def roundToGrid (numerator denominator : Nat) : Nat :=
  let width := step (numerator / denominator)
  width * nearestEven numerator (denominator * width)

theorem unitsPerOne_pos : 0 < unitsPerOne := by decide +kernel

theorem nearestEven_le (numerator denominator : Nat) :
    nearestEven numerator denominator ≤ numerator / denominator + 1 := by
  unfold nearestEven
  have parity := Nat.mod_lt (numerator / denominator) (by decide : 2 > 0)
  dsimp only
  split
  · exact Nat.le_succ _
  · split
    · omega
    · exact Nat.le_refl _

theorem nearestEven_mul (quotient : Nat) {denominator : Nat} (positive : 0 < denominator) :
    nearestEven (quotient * denominator) denominator = quotient := by
  simp [nearestEven, Nat.mul_div_cancel _ positive, positive]

theorem step_pos (count : Nat) : 0 < step count := Nat.two_pow_pos _

/-- A count has at most fifty-three bits above its step. -/
theorem lt_mul_step (count : Nat) : count < Nat.pow 2 53 * step count := by
  change count < 2 ^ 53 * 2 ^ spacing count
  rw [← Nat.pow_add]
  exact Nat.lt_of_lt_of_le Nat.lt_log2_self
    (Nat.pow_le_pow_right (by decide) (by unfold spacing; omega))

theorem spacing_le {count exponent : Nat}
    (bounded : count < Nat.pow 2 53 * Nat.pow 2 exponent) : spacing count ≤ exponent := by
  change count < 2 ^ 53 * 2 ^ exponent at bounded
  unfold spacing
  by_cases zero : count = 0
  · rw [zero, Nat.log2_zero]
    exact Nat.zero_le _
  · rw [← Nat.pow_add] at bounded
    have below := (Nat.log2_lt zero).mpr bounded
    omega

/-- A multiple of a power of two with a factor of at most `2 ^ 53` has at most fifty-three
bits. -/
theorem step_dvd {factor exponent : Nat} (bounded : factor ≤ Nat.pow 2 53) :
    step (Nat.pow 2 exponent * factor) ∣ Nat.pow 2 exponent * factor := by
  by_cases full : factor = Nat.pow 2 53
  · rw [full]
    have joined : Nat.pow 2 exponent * Nat.pow 2 53 = 2 ^ (exponent + 53) :=
      (Nat.pow_add 2 exponent 53).symm
    rw [joined]
    apply Nat.pow_dvd_pow
    unfold spacing
    rw [Nat.log2_two_pow]
    omega
  · have below : Nat.pow 2 exponent * factor < Nat.pow 2 53 * Nat.pow 2 exponent := by
      rw [Nat.mul_comm]
      exact Nat.mul_lt_mul_of_pos_right (Nat.lt_of_le_of_ne bounded full)
        (Nat.two_pow_pos exponent)
    exact Nat.dvd_trans (Nat.pow_dvd_pow 2 (spacing_le below)) (Nat.dvd_mul_right _ _)

theorem roundToGrid_dvd (numerator denominator : Nat) :
    step (roundToGrid numerator denominator) ∣ roundToGrid numerator denominator := by
  apply step_dvd
  refine Nat.le_trans (nearestEven_le _ _) ?_
  rw [← Nat.div_div_eq_div_mul]
  have below := lt_mul_step (numerator / denominator)
  exact Nat.div_lt_of_lt_mul (by rwa [Nat.mul_comm] at below)

/-- A rounded count below the limit lies on the grid. -/
theorem onGrid_roundToGrid {numerator denominator : Nat}
    (bounded : roundToGrid numerator denominator < countLimit) :
    OnGrid (roundToGrid numerator denominator) :=
  ⟨bounded, roundToGrid_dvd numerator denominator⟩

/-- A count on the grid is its own rounding. -/
theorem roundToGrid_mul {count denominator : Nat} (onGrid : OnGrid count)
    (positive : 0 < denominator) :
    roundToGrid (count * denominator) denominator = count := by
  unfold roundToGrid
  rw [Nat.mul_div_cancel _ positive]
  obtain ⟨factor, equal⟩ := onGrid.2
  dsimp only
  have split : count * denominator = factor * (denominator * step count) := by
    rw [Nat.mul_comm denominator, ← Nat.mul_assoc, Nat.mul_comm factor, ← equal]
  rw [split, nearestEven_mul _ (Nat.mul_pos positive (step_pos _)), ← equal]

theorem onGrid_zero : OnGrid 0 := by decide +kernel

end Casework.Binary64
