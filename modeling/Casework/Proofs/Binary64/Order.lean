/-
This file places binary64 numbers on a line of units. The result of an operation stands where the
rounding of the exact result stands, so operations keep the order that exact arithmetic has.
-/

import Casework.Proofs.Binary64.Finiteness

namespace Casework.Binary64

/-- Infinities stand on either side of all finite numbers. What is no number has no place of its
own. -/
def rank : Binary64 → Int
  | .finite value => value.units
  | .infinite negative => if negative then -(countLimit : Int) else countLimit
  | .notNumber => 0

/-- A quotient of units is rounded onto the line, and the limit stands for all that is beyond. -/
def roundSigned (numerator : Int) (denominator : Nat) : Int :=
  numerator.sign * (min (roundToGrid numerator.natAbs denominator) countLimit : Nat)

/-- A negative number has negative units. -/
theorem Finite.units_of_negative {value : Finite} (isNegative : value.negative = true) :
    value.units = -(value.count : Int) := by
  unfold units
  rw [if_pos isNegative]

/-- The units of any other number are its count. -/
theorem Finite.units_of_not_negative {value : Finite} (notNegative : value.negative = false) :
    value.units = value.count := by
  unfold units
  rw [notNegative]
  rfl

/-- Finite numbers stand between the infinities. -/
theorem Finite.units_bounds (value : Finite) :
    -(countLimit : Int) < value.units ∧ value.units < countLimit := by
  have below := value.onGrid.1
  unfold units
  split <;> omega

/-- A natural number is rounded to the grid and cut off at the limit. -/
theorem roundSigned_natCast (numerator denominator : Nat) :
    roundSigned numerator denominator =
      (min (roundToGrid numerator denominator) countLimit : Nat) := by
  unfold roundSigned
  by_cases zero : numerator = 0
  · subst zero
    show (0 : Int).sign * _ = _
    rw [Int.sign_zero, Int.zero_mul, roundToGrid_zero, Nat.zero_min]
    rfl
  · rw [Int.sign_eq_one_of_pos (by omega), Int.one_mul, Int.natAbs_natCast]

/-- Rounding is symmetric. -/
theorem roundSigned_neg (numerator : Int) (denominator : Nat) :
    roundSigned (-numerator) denominator = -roundSigned numerator denominator := by
  unfold roundSigned
  rw [Int.sign_neg, Int.natAbs_neg, Int.neg_mul]

@[simp]
theorem roundSigned_zero (denominator : Nat) : roundSigned 0 denominator = 0 := by
  unfold roundSigned
  rw [Int.sign_zero, Int.zero_mul]

/-- Rounding keeps the sign of a quotient that is not below zero. -/
theorem roundSigned_nonneg {numerator : Int} (notBelow : 0 ≤ numerator) (denominator : Nat) :
    0 ≤ roundSigned numerator denominator := by
  obtain ⟨count, rfl⟩ := Int.eq_ofNat_of_zero_le notBelow
  rw [roundSigned_natCast]
  exact Int.natCast_nonneg _

/-- Rounding with signs keeps the order of quotients. -/
theorem roundSigned_le_roundSigned {first second : Int} {firstDivisor secondDivisor : Nat}
    (firstPositive : 0 < firstDivisor) (secondPositive : 0 < secondDivisor)
    (ordered : first * secondDivisor ≤ second * firstDivisor) :
    roundSigned first firstDivisor ≤ roundSigned second secondDivisor := by
  have rounded (left right leftDivisor rightDivisor : Nat) (leftPositive : 0 < leftDivisor)
      (rightPositive : 0 < rightDivisor) (le : left * rightDivisor ≤ right * leftDivisor) :
      min (roundToGrid left leftDivisor) countLimit ≤
        min (roundToGrid right rightDivisor) countLimit := by
    have grid := roundToGrid_le_roundToGrid leftPositive rightPositive le
    omega
  obtain ⟨left, isLeft | isLeft⟩ := Int.eq_nat_or_neg first <;>
    obtain ⟨right, isRight | isRight⟩ := Int.eq_nat_or_neg second <;>
    subst isLeft isRight
  · rw [roundSigned_natCast, roundSigned_natCast]
    exact Int.ofNat_le.mpr
      (rounded _ _ _ _ firstPositive secondPositive (by exact_mod_cast ordered))
  · -- only zeros are ordered like this
    have product : (0 : Int) ≤ left * secondDivisor := Int.mul_nonneg (by omega) (by omega)
    have other : (0 : Int) ≤ right * firstDivisor := Int.mul_nonneg (by omega) (by omega)
    rw [Int.neg_mul] at ordered
    have leftZero : left = 0 := by
      have zero : (left : Int) * secondDivisor = 0 := by omega
      rcases Int.mul_eq_zero.mp zero with none | none <;> omega
    have rightZero : right = 0 := by
      have zero : (right : Int) * firstDivisor = 0 := by omega
      rcases Int.mul_eq_zero.mp zero with none | none <;> omega
    rw [leftZero, rightZero]
    simp
  · rw [roundSigned_neg, roundSigned_natCast, roundSigned_natCast]
    omega
  · rw [roundSigned_neg, roundSigned_neg, roundSigned_natCast, roundSigned_natCast]
    rw [Int.neg_mul, Int.neg_mul] at ordered
    have reversed : (right : Int) * firstDivisor ≤ left * secondDivisor := by omega
    have grid := rounded _ _ _ _ secondPositive firstPositive (by exact_mod_cast reversed)
    omega

/-- Rounding keeps a quotient between two bounds that are rounded themselves. -/
theorem roundSigned_bounds {low value high : Int} {denominator : Nat} (positive : 0 < denominator)
    (above : low ≤ value) (below : value ≤ high) :
    roundSigned low denominator ≤ roundSigned value denominator ∧
      roundSigned value denominator ≤ roundSigned high denominator :=
  ⟨roundSigned_le_roundSigned positive positive (Int.mul_le_mul_of_nonneg_right above (by omega)),
    roundSigned_le_roundSigned positive positive (Int.mul_le_mul_of_nonneg_right below (by omega))⟩

/-- A finite number is the rounding of itself. -/
theorem roundSigned_units (value : Finite) {denominator : Nat} (positive : 0 < denominator) :
    roundSigned (value.units * denominator) denominator = value.units := by
  have exact : roundSigned ((value.count * denominator : Nat) : Int) denominator = value.count := by
    have below := value.onGrid.1
    rw [roundSigned_natCast, roundToGrid_mul value.onGrid positive]
    omega
  rw [Int.natCast_mul] at exact
  cases negative : value.negative with
  | true => rw [Finite.units_of_negative negative, Int.neg_mul, roundSigned_neg, exact]
  | false => rw [Finite.units_of_not_negative negative, exact]

/-- The nearest number stands where the quotient is rounded to. -/
theorem rank_ofUnits (negative : Bool) (numerator denominator : Nat) :
    (ofUnits negative numerator denominator).rank =
      roundSigned (if negative then -(numerator : Int) else numerator) denominator := by
  have unsigned := roundSigned_natCast numerator denominator
  unfold ofUnits
  dsimp only
  split
  · rename_i bounded
    rw [Nat.min_eq_left (Nat.le_of_lt bounded)] at unsigned
    cases negative with
    | true =>
        rw [if_pos rfl, roundSigned_neg, unsigned]
        rfl
    | false => exact unsigned.symm
  · rename_i unbounded
    rw [Nat.min_eq_right (Nat.le_of_not_lt unbounded)] at unsigned
    cases negative with
    | true =>
        rw [if_pos rfl, roundSigned_neg, unsigned]
        rfl
    | false => exact unsigned.symm

/-- A quotient of units is finite or infinite. -/
theorem ofUnits_ne_notNumber (negative : Bool) (numerator denominator : Nat) :
    ofUnits negative numerator denominator ≠ .notNumber := by
  unfold ofUnits
  dsimp only
  split <;> exact Binary64.noConfusion

/-- A sum is rounded once. -/
theorem Finite.rank_add (left right : Finite) :
    (left.add right).rank = roundSigned (left.units + right.units) 1 := by
  unfold add
  dsimp only
  split
  · rename_i zero
    rw [zero, roundSigned_zero]
    show units ⟨_, 0, _⟩ = 0
    unfold units
    split <;> rfl
  · rw [rank_ofUnits]
    congr 1
    by_cases below : left.units + right.units < 0
    · rw [decide_eq_true below, if_pos rfl]
      omega
    · rw [decide_eq_false below]
      show ((left.units + right.units).natAbs : Int) = _
      omega

/-- A product is rounded once. -/
theorem Finite.rank_mul (left right : Finite) :
    (left.mul right).rank = roundSigned (left.units * right.units) unitsPerOne := by
  unfold mul
  rw [rank_ofUnits]
  congr 1
  unfold units
  cases left.negative <;> cases right.negative <;>
    simp only [bne_self_eq_false, Bool.bne_true, Bool.bne_false, Bool.not_false,
      Bool.false_eq_true, if_true, if_false, Int.natCast_mul, Int.mul_neg, Int.neg_mul, Int.neg_neg]

/-- A divisor above zero keeps the sign of the quotient. -/
theorem Finite.rank_div (left : Finite) {right : Finite} (positive : 0 < right.units) :
    (left.div right).rank = roundSigned (left.units * unitsPerOne) right.count := by
  have notNegative : right.negative = false := by
    cases negative : right.negative with
    | false => rfl
    | true =>
        rw [units_of_negative negative] at positive
        omega
  have notZero : right.isZero = false := by
    cases zero : right.isZero with
    | false => rfl
    | true =>
        rw [(right.isZero_iff).mp zero] at positive
        omega
  rw [div_of_nonzero left notZero, rank_ofUnits, notNegative, Bool.bne_false]
  congr 1
  unfold units
  cases left.negative <;>
    simp only [Bool.false_eq_true, if_true, if_false, Int.natCast_mul, Int.neg_mul]

theorem countLimit_pos : 0 < countLimit := by decide +kernel

/-- Numbers are compared by their places. -/
theorem less_iff_rank {left right : Binary64} (leftIsNumber : left ≠ .notNumber)
    (rightIsNumber : right ≠ .notNumber) : left.less right = true ↔ left.rank < right.rank := by
  have positive := countLimit_pos
  cases left with
  | notNumber => contradiction
  | finite left =>
      cases right with
      | notNumber => contradiction
      | finite right => exact decide_eq_true_iff
      | infinite negative =>
          have bounds := left.units_bounds
          cases negative <;> simp [less, rank] <;> omega
  | infinite negative =>
      cases right with
      | notNumber => contradiction
      | finite right =>
          have bounds := right.units_bounds
          cases negative <;> simp [less, rank] <;> omega
      | infinite other =>
          have apart : -(countLimit : Int) < countLimit := by omega
          cases negative <;> cases other <;> simp [less, rank, apart]

/-- No number is less than itself. -/
@[simp]
theorem less_self (value : Binary64) : value.less value = false := by
  cases value with
  | finite value => exact decide_eq_false (Int.lt_irrefl _)
  | infinite negative => cases negative <;> rfl
  | notNumber => rfl

/-- Only the positive infinity is not below zero. -/
theorem eq_false_of_zero_le_rank {negative : Bool} (above : 0 ≤ (infinite negative).rank) :
    negative = false := by
  have positive := countLimit_pos
  cases negative with
  | false => rfl
  | true =>
      simp only [rank, if_true] at above
      omega

/-- A number is at least zero when its rank is, and it is a number at all. -/
theorem zero_atMost_iff {value : Binary64} :
    zero.atMost value = true ↔ value ≠ .notNumber ∧ 0 ≤ value.rank := by
  have positive := countLimit_pos
  cases value with
  | notNumber => simp [atMost, zero, less, equals]
  | infinite negative =>
      cases negative with
      | false => exact iff_of_true rfl ⟨by simp, by simp [rank]⟩
      | true =>
          refine iff_of_false Bool.false_ne_true fun above => ?_
          have below : (0 : Int) ≤ -(countLimit : Int) := above.2
          omega
  | finite value =>
      show (decide ((0 : Int) < value.units) || (0 : Int) == value.units) = true ↔
        _ ∧ 0 ≤ value.units
      simp only [Bool.or_eq_true, decide_eq_true_eq, beq_iff_eq, ne_eq, reduceCtorEq,
        not_false_eq_true, true_and]
      omega

/-- A number at a place within the limit is finite. -/
theorem exists_finite_of_rank {value : Binary64} (isNumber : value ≠ .notNumber)
    (notBelow : 0 ≤ value.rank) (below : value.rank < countLimit) :
    ∃ number : Finite, value = .finite number := by
  cases value with
  | finite number => exact ⟨number, rfl⟩
  | infinite negative =>
      rw [eq_false_of_zero_le_rank notBelow] at below
      exact absurd below (Int.lt_irrefl _)
  | notNumber => contradiction

theorem Finite.isZero_eq_false_iff (value : Finite) : value.isZero = false ↔ value.units ≠ 0 := by
  rw [← Bool.not_eq_true, value.isZero_iff]

/-- A finite number that is not at most zero is above zero. -/
theorem Finite.units_pos {value : Finite}
    (above : (finite value).atMost Binary64.zero = false) : 0 < value.units := by
  obtain ⟨notLess, notEqual⟩ := Bool.or_eq_false_iff.mp above
  have notBelow : ¬ value.units < 0 := of_decide_eq_false notLess
  have nonzero : value.units ≠ 0 := ne_of_beq_false notEqual
  omega

/-- A sum stands where the first summand stands, or above, when the second is not below zero. -/
theorem Finite.units_le_rank_add (sum : Finite) {area : Finite} (notBelow : 0 ≤ area.units) :
    sum.units ≤ (sum.add area).rank := by
  have exact := roundSigned_units sum Nat.one_pos
  rw [rank_add, ← exact]
  apply roundSigned_le_roundSigned Nat.one_pos Nat.one_pos
  rw [exact]
  omega

/-- Only a summand below zero makes a sum less. -/
theorem less_add_self (sum : Binary64) {area : Binary64} (notBelow : zero.atMost area = true) :
    (sum.add area).less sum = false := by
  obtain ⟨isNumber, above⟩ := zero_atMost_iff.mp notBelow
  cases sum with
  | notNumber => rfl
  | finite sum =>
      cases area with
      | notNumber => contradiction
      | finite area =>
          have notLess : ¬ (sum.add area).less (.finite sum) = true := by
            rw [less_iff_rank (sum.add_ne_notNumber area) (by simp)]
            exact Int.not_lt.mpr (sum.units_le_rank_add above)
          exact Bool.eq_false_iff.mpr notLess
      | infinite negative =>
          rw [eq_false_of_zero_le_rank above]
          rfl
  | infinite negative =>
      cases area with
      | notNumber => contradiction
      | finite area => cases negative <;> rfl
      | infinite other => cases negative <;> cases other <;> rfl

/-- A sum of parts that are at least zero is at least zero. -/
theorem zero_atMost_add {sum area : Binary64} (sumNotBelow : zero.atMost sum = true)
    (areaNotBelow : zero.atMost area = true) : zero.atMost (sum.add area) = true := by
  rw [zero_atMost_iff] at *
  obtain ⟨sumIsNumber, sumAbove⟩ := sumNotBelow
  obtain ⟨areaIsNumber, areaAbove⟩ := areaNotBelow
  cases sum with
  | notNumber => contradiction
  | finite sum =>
      cases area with
      | notNumber => contradiction
      | finite area =>
          exact ⟨sum.add_ne_notNumber area, Int.le_trans sumAbove (sum.units_le_rank_add areaAbove)⟩
      | infinite negative => exact ⟨Binary64.noConfusion, areaAbove⟩
  | infinite negative =>
      cases area with
      | notNumber => contradiction
      | finite area => exact ⟨Binary64.noConfusion, sumAbove⟩
      | infinite other =>
          rw [eq_false_of_zero_le_rank sumAbove, eq_false_of_zero_le_rank areaAbove]
          exact ⟨Binary64.noConfusion, Int.natCast_nonneg _⟩

/-- Only a summand below zero makes a sum that starts at zero negative. -/
theorem zero_atMost_foldl_add {areas : List Binary64} {start : Binary64}
    (startNotBelow : zero.atMost start = true)
    (notBelow : ∀ area ∈ areas, zero.atMost area = true) :
    zero.atMost (areas.foldl add start) = true := by
  induction areas generalizing start with
  | nil => exact startNotBelow
  | cons area rest inductionHypothesis =>
      obtain ⟨firstNotBelow, othersNotBelow⟩ := List.forall_mem_cons.mp notBelow
      exact inductionHypothesis (zero_atMost_add startNotBelow firstNotBelow) othersNotBelow

/-- Products with a factor that is not below zero are ordered like the other factors. -/
theorem Finite.rank_mul_le_rank_mul {first second factor : Finite} (notBelow : 0 ≤ factor.units)
    (ordered : first.units ≤ second.units) :
    (first.mul factor).rank ≤ (second.mul factor).rank := by
  rw [rank_mul, rank_mul]
  apply roundSigned_le_roundSigned unitsPerOne_pos unitsPerOne_pos
  apply Int.mul_le_mul_of_nonneg_right _ (Int.natCast_nonneg _)
  exact Int.mul_le_mul_of_nonneg_right ordered notBelow

/-- Quotients by a divisor above zero are ordered like the dividends. -/
theorem Finite.rank_div_le_rank_div {first second divisor : Finite} (positive : 0 < divisor.units)
    (ordered : first.units ≤ second.units) :
    (first.div divisor).rank ≤ (second.div divisor).rank := by
  have counted : 0 < divisor.count := by
    unfold units at positive
    split at positive <;> omega
  rw [rank_div first positive, rank_div second positive]
  apply roundSigned_le_roundSigned counted counted
  apply Int.mul_le_mul_of_nonneg_right _ (Int.natCast_nonneg _)
  exact Int.mul_le_mul_of_nonneg_right ordered (Int.natCast_nonneg _)

/-- Rounding up keeps the order. -/
theorem Finite.ceiling_le_ceiling {first second : Finite} (ordered : first.units ≤ second.units) :
    first.ceiling ≤ second.ceiling := by
  have positive : (0 : Int) < unitsPerOne := Int.natCast_pos.mpr unitsPerOne_pos
  unfold ceiling
  have floors := Int.ediv_le_ediv positive (Int.neg_le_neg ordered)
  omega

/-- Rounding up keeps a number at least zero. -/
theorem Finite.zero_le_ceiling {value : Finite} (notBelow : 0 ≤ value.units) :
    0 ≤ value.ceiling := by
  have ordered : Finite.zero.units ≤ value.units := notBelow
  have zeroCeiling : Finite.zero.ceiling = 0 := by decide +kernel
  rw [← zeroCeiling]
  exact Finite.ceiling_le_ceiling ordered

end Casework.Binary64
