import Casework.Binary64.Basic
import Casework.Proofs.Binary64.Rounding

namespace Casework.Binary64

/-- Only finite numbers have a finite sum. -/
theorem add_eq_finite {left right : Binary64} {sum : Finite}
    (isSum : left.add right = .finite sum) :
    (∃ first, left = .finite first) ∧ ∃ second, right = .finite second := by
  cases left with
  | finite first =>
      cases right with
      | finite second => exact ⟨⟨first, rfl⟩, second, rfl⟩
      | infinite negative => contradiction
      | notNumber => contradiction
  | infinite negative =>
      cases right with
      | finite second => contradiction
      | infinite other => cases negative <;> cases other <;> contradiction
      | notNumber => contradiction
  | notNumber => contradiction

/-- Only finite numbers have a finite product. -/
theorem mul_eq_finite {left right : Binary64} {product : Finite}
    (isProduct : left.mul right = .finite product) :
    (∃ first, left = .finite first) ∧ ∃ second, right = .finite second := by
  unfold mul at isProduct
  split at isProduct
  · exact ⟨⟨_, rfl⟩, _, rfl⟩
  · contradiction
  · contradiction
  · split at isProduct <;> contradiction

/-- Only a finite number has a finite quotient. -/
theorem exists_finite_of_div {left right : Binary64} {quotient : Finite}
    (isQuotient : left.div right = .finite quotient) : ∃ first, left = .finite first := by
  unfold div at isQuotient
  split at isQuotient <;> first | exact ⟨_, rfl⟩ | contradiction

/-- A finite sum has finite summands and a finite start. -/
theorem exists_finite_of_foldl_add {areas : List Binary64} {start : Binary64} {sum : Finite}
    (isSum : areas.foldl add start = .finite sum) :
    (∃ value, start = .finite value) ∧ ∀ area ∈ areas, ∃ value, area = .finite value := by
  induction areas generalizing start with
  | nil => exact ⟨⟨sum, isSum⟩, by simp⟩
  | cons area rest inductionHypothesis =>
      obtain ⟨⟨next, isNext⟩, others⟩ := inductionHypothesis isSum
      obtain ⟨isStart, isFirst⟩ := add_eq_finite isNext
      exact ⟨isStart, List.forall_mem_cons.mpr ⟨isFirst, others⟩⟩

/-- A quotient of units that is rounded below the limit is finite. -/
theorem ofUnits_of_lt {negative : Bool} {numerator denominator : Nat}
    (bounded : roundToGrid numerator denominator < countLimit) :
    ofUnits negative numerator denominator =
      .finite ⟨negative, roundToGrid numerator denominator, onGrid_roundToGrid bounded⟩ :=
  dif_pos bounded

/-- A finite quotient is on the grid where rounding puts it. -/
theorem count_of_ofUnits {negative : Bool} {numerator denominator : Nat} {value : Finite}
    (isValue : ofUnits negative numerator denominator = .finite value) :
    value.count = roundToGrid numerator denominator := by
  unfold ofUnits at isValue
  dsimp only at isValue
  split at isValue
  · cases isValue
    rfl
  · contradiction

/-- A finite quotient keeps its sign. -/
theorem negative_of_ofUnits {negative : Bool} {numerator denominator : Nat} {value : Finite}
    (isValue : ofUnits negative numerator denominator = .finite value) :
    value.negative = negative := by
  unfold ofUnits at isValue
  dsimp only at isValue
  split at isValue
  · cases isValue
    rfl
  · contradiction

/-- The nearest number to an integer has its sign. -/
theorem negative_of_ofInt {value : Int} {nearest : Finite}
    (isNearest : ofInt value = .finite nearest) : nearest.negative = decide (value < 0) := by
  have isRounding : ofUnits (value < 0) (value.natAbs * unitsPerOne) 1 = .finite nearest :=
    isNearest
  exact negative_of_ofUnits isRounding

/-- Only the integer zero has the nearest number zero. -/
theorem isZero_of_ofInt {value : Int} {nearest : Finite} (isNearest : ofInt value = .finite nearest)
    (nonzero : value ≠ 0) : nearest.isZero = false := by
  have whole : 1 * 1 ≤ value.natAbs * unitsPerOne * 1 := by
    have positive := Nat.mul_pos (Int.natAbs_pos.mpr nonzero) unitsPerOne_pos
    omega
  have oneUnit : roundToGrid 1 1 = 1 := by decide +kernel
  have above := roundToGrid_le_roundToGrid Nat.one_pos Nat.one_pos whole
  have isRounding : ofUnits (value < 0) (value.natAbs * unitsPerOne) 1 = .finite nearest :=
    isNearest
  rw [oneUnit, ← count_of_ofUnits isRounding] at above
  exact beq_false_of_ne (Nat.ne_of_gt above)

/-- A quotient is rounded once when the divisor is not zero. -/
theorem Finite.div_of_nonzero (left : Finite) {right : Finite} (nonzero : right.isZero = false) :
    left.div right =
      ofUnits (left.negative != right.negative) (left.count * unitsPerOne) right.count := by
  unfold div
  simp only [nonzero, Bool.false_eq_true, if_false]

/-- Division keeps a number finite when it keeps the limit finite. -/
theorem Finite.exists_div {divisor : Finite} (nonzero : divisor.isZero = false)
    (bounded : roundToGrid (countLimit * unitsPerOne) divisor.count < countLimit)
    (value : Finite) :
    ∃ quotient, value.div divisor = .finite quotient ∧
      quotient.count ≤ roundToGrid (countLimit * unitsPerOne) divisor.count := by
  have positive : 0 < divisor.count := by
    unfold isZero at nonzero
    exact Nat.pos_of_ne_zero (by simpa using nonzero)
  have ordered : roundToGrid (value.count * unitsPerOne) divisor.count ≤
      roundToGrid (countLimit * unitsPerOne) divisor.count := by
    apply roundToGrid_le_roundToGrid positive positive
    apply Nat.mul_le_mul_right
    exact Nat.mul_le_mul_right _ (Nat.le_of_lt value.onGrid.1)
  rw [div_of_nonzero value nonzero]
  exact ⟨_, ofUnits_of_lt (Nat.lt_of_le_of_lt ordered bounded), ordered⟩

/-- A product is finite when a larger number has a finite product. -/
theorem Finite.exists_mul {limit : Nat} {value factor : Finite} (below : value.count ≤ limit)
    (bounded : roundToGrid (limit * factor.count) unitsPerOne < countLimit) :
    ∃ product, value.mul factor = .finite product := by
  have ordered : roundToGrid (value.count * factor.count) unitsPerOne ≤
      roundToGrid (limit * factor.count) unitsPerOne := by
    apply roundToGrid_le_roundToGrid unitsPerOne_pos unitsPerOne_pos
    apply Nat.mul_le_mul_right
    exact Nat.mul_le_mul_right _ below
  exact ⟨_, ofUnits_of_lt (Nat.lt_of_le_of_lt ordered bounded)⟩

/-- Whole numbers keep their order when they are rounded. -/
theorem roundToGrid_whole_le {first second : Nat} (ordered : first ≤ second) :
    roundToGrid (first * unitsPerOne) 1 ≤ roundToGrid (second * unitsPerOne) 1 := by
  apply roundToGrid_le_roundToGrid Nat.one_pos Nat.one_pos
  apply Nat.mul_le_mul_right
  exact Nat.mul_le_mul_right _ ordered

/-- From here on no finite number is the nearest to an integer. -/
@[irreducible]
def wholeLimit : Nat := Nat.pow 2 1024 - Nat.pow 2 970

/-- An integer has a nearest finite number exactly when it is below the limit. -/
theorem exists_ofInt_iff {value : Int} :
    (∃ nearest, ofInt value = .finite nearest) ↔ value.natAbs < wholeLimit := by
  constructor
  · rintro ⟨nearest, isNearest⟩
    have bounded : roundToGrid (value.natAbs * unitsPerOne) 1 < countLimit :=
      count_of_ofUnits isNearest ▸ nearest.onGrid.1
    have limitRounded : countLimit ≤ roundToGrid (wholeLimit * unitsPerOne) 1 := by
      decide +kernel
    apply Nat.lt_of_not_le
    intro above
    have ordered := roundToGrid_whole_le above
    omega
  · intro below
    have bounded : roundToGrid ((wholeLimit - 1) * unitsPerOne) 1 < countLimit := by
      decide +kernel
    have ordered := roundToGrid_whole_le (Nat.le_sub_one_of_lt below)
    exact ⟨_, ofUnits_of_lt (Nat.lt_of_le_of_lt ordered bounded)⟩

end Casework.Binary64
