/-
This file defines binary64 numbers, their arithmetic and their order.
Every operation works on exact integers and rounds once.
-/

import Casework.Binary64.Grid

namespace Casework

namespace Binary64

/-- A finite number is a sign and a count of units of `2 ^ -1074` on the grid. -/
structure Finite where
  negative : Bool
  count : Nat
  onGrid : OnGrid count
  deriving DecidableEq

end Binary64

/-- A binary64 number is finite, an infinity, or no number at all. -/
inductive Binary64 where
  | finite (value : Binary64.Finite)
  | infinite (negative : Bool)
  | notNumber
  deriving DecidableEq

namespace Binary64

/-- The number of units with its sign. -/
def Finite.units (value : Finite) : Int :=
  if value.negative then -(value.count : Int) else value.count

def Finite.zero : Finite := ⟨false, 0, onGrid_zero⟩

instance : Inhabited Finite := ⟨.zero⟩

instance : Inhabited Binary64 := ⟨.finite .zero⟩

/-- Both zeros have the count zero. -/
def Finite.isZero (value : Finite) : Bool := value.count == 0

/-- Equality of numbers identifies the two zeros. -/
def Finite.equals (left right : Finite) : Bool := left.units == right.units

def Finite.less (left right : Finite) : Bool := left.units < right.units

/-- Negation flips the sign, also of a zero. -/
def Finite.negate (value : Finite) : Finite :=
  { value with negative := !value.negative }

def Finite.magnitude (value : Finite) : Finite :=
  { value with negative := false }

/-- This is the nearest number to a quotient of units, or an infinity beyond the limit. -/
def ofUnits (negative : Bool) (numerator denominator : Nat) : Binary64 :=
  let count := roundToGrid numerator denominator
  if bounded : count < countLimit then
    .finite ⟨negative, count, onGrid_roundToGrid bounded⟩
  else .infinite negative

/-- This is the nearest number to a quotient of natural numbers with a sign. -/
def ofRatio (negative : Bool) (numerator denominator : Nat) : Binary64 :=
  ofUnits negative (numerator * unitsPerOne) denominator

/-- This is the nearest number to an integer. -/
def ofInt (value : Int) : Binary64 :=
  ofRatio (value < 0) value.natAbs 1

/-- The exact sum is rounded once. A zero sum is negative only for two negative zeros. -/
def Finite.add (left right : Finite) : Binary64 :=
  let total := left.units + right.units
  if total = 0 then
    .finite ⟨left.negative && right.negative, 0, onGrid_zero⟩
  else ofUnits (total < 0) total.natAbs 1

def Finite.sub (left right : Finite) : Binary64 := left.add right.negate

/-- The exact product is rounded once. -/
def Finite.mul (left right : Finite) : Binary64 :=
  ofUnits (left.negative != right.negative) (left.count * right.count) unitsPerOne

/-- The exact quotient is rounded once. A zero divisor gives an infinity or no number. -/
def Finite.div (left right : Finite) : Binary64 :=
  let negative := left.negative != right.negative
  if right.isZero then
    if left.isZero then .notNumber else .infinite negative
  else ofUnits negative (left.count * unitsPerOne) right.count

def isNegative : Binary64 → Bool
  | .finite value => value.negative
  | .infinite negative => negative
  | .notNumber => false

def isZero : Binary64 → Bool
  | .finite value => value.isZero
  | _ => false

def finite? : Binary64 → Option Finite
  | .finite value => some value
  | _ => none

def negate : Binary64 → Binary64
  | .finite value => .finite value.negate
  | .infinite negative => .infinite !negative
  | .notNumber => .notNumber

def add : Binary64 → Binary64 → Binary64
  | .finite left, .finite right => left.add right
  | .notNumber, _ => .notNumber
  | _, .notNumber => .notNumber
  | .infinite left, .infinite right =>
    if left = right then .infinite left else .notNumber
  | .infinite left, .finite _ => .infinite left
  | .finite _, .infinite right => .infinite right

/-- A zero times an infinity is no number. -/
def mul (left right : Binary64) : Binary64 :=
  match left, right with
  | .finite left, .finite right => left.mul right
  | .notNumber, _ => .notNumber
  | _, .notNumber => .notNumber
  | left, right =>
    if left.isZero || right.isZero then .notNumber
    else .infinite (left.isNegative != right.isNegative)

/-- A finite number over an infinity is a zero. -/
def div (left right : Binary64) : Binary64 :=
  match left, right with
  | .finite left, .finite right => left.div right
  | .notNumber, _ => .notNumber
  | _, .notNumber => .notNumber
  | .infinite _, .infinite _ => .notNumber
  | .infinite left, .finite right => .infinite (left != right.negative)
  | .finite left, .infinite right => .finite ⟨left.negative != right, 0, onGrid_zero⟩

/-- Nothing is less than what is no number, and that is less than nothing. -/
def less : Binary64 → Binary64 → Bool
  | .finite left, .finite right => left.less right
  | .notNumber, _ => false
  | _, .notNumber => false
  | .infinite left, .infinite right => left && !right
  | .infinite left, .finite _ => left
  | .finite _, .infinite right => !right

def equals : Binary64 → Binary64 → Bool
  | .finite left, .finite right => left.equals right
  | .infinite left, .infinite right => left == right
  | _, _ => false

def atMost (left right : Binary64) : Bool := left.less right || left.equals right

/-- The least integer that is not below the number. -/
def Finite.ceiling (value : Finite) : Int :=
  -((-value.units) / (unitsPerOne : Int))

/-- This is the magnitude as a natural number when it is whole. -/
def Finite.whole? (value : Finite) : Option Nat :=
  if value.count % unitsPerOne = 0 then some (value.count / unitsPerOne) else none

def zero : Binary64 := .finite .zero

def one : Binary64 := ofInt 1

/-- A finite number is its sign and its count. -/
theorem Finite.eq_iff {left right : Finite} :
    left = right ↔ left.negative = right.negative ∧ left.count = right.count := by
  cases left
  cases right
  exact Eq.to_iff (Finite.mk.injEq ..)

@[simp]
theorem Finite.units_zero : Finite.zero.units = 0 := rfl

theorem Finite.isZero_iff (value : Finite) : value.isZero = true ↔ value.units = 0 := by
  unfold Finite.isZero Finite.units
  cases value.negative <;> simp

@[simp]
theorem Finite.units_negate (value : Finite) : value.negate.units = -value.units := by
  unfold Finite.negate Finite.units
  cases value.negative <;> simp

@[simp]
theorem finite?_eq_some_iff {number : Binary64} {value : Finite} :
    number.finite? = some value ↔ number = .finite value := by
  cases number <;> simp [finite?]

/-- A number on the grid is the rounding of its own count. -/
theorem ofUnits_mul (value : Finite) {denominator : Nat} (positive : 0 < denominator) :
    ofUnits value.negative (value.count * denominator) denominator = .finite value := by
  unfold ofUnits
  simp [roundToGrid_mul value.onGrid positive, value.onGrid.1]

/-- A sum of finite numbers is a number. -/
theorem Finite.add_ne_notNumber (left right : Finite) : left.add right ≠ .notNumber := by
  unfold Finite.add ofUnits
  dsimp only
  split
  · exact Binary64.noConfusion
  · split <;> exact Binary64.noConfusion

/-- A product of finite numbers is a number. -/
theorem Finite.mul_ne_notNumber (left right : Finite) : left.mul right ≠ .notNumber := by
  unfold Finite.mul ofUnits
  dsimp only
  split <;> exact Binary64.noConfusion

/-- A quotient of finite numbers is a number when the divisor is not zero. -/
theorem Finite.div_ne_notNumber {left right : Finite} (nonzero : right.isZero = false) :
    left.div right ≠ .notNumber := by
  unfold Finite.div ofUnits
  simp only [nonzero]
  split
  · contradiction
  · split <;> exact Binary64.noConfusion

end Binary64

end Casework
