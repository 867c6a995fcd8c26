import Casework.Binary64.Basic

namespace Casework

open Binary64

/-- An amount is an exact integer or a binary64 number. -/
inductive Amount where
  | integer (value : Int)
  | real (value : Binary64)
  deriving DecidableEq

namespace Amount

/-- An integer becomes the nearest number, but not beyond the finite numbers. -/
def nearest? : Amount → Option Binary64
  | .integer value => (ofInt value).finite?.map .finite
  | .real value => some value

/-- The product of integers is exact. -/
def times? (left right : Amount) : Option Amount :=
  match left, right with
  | .integer left, .integer right => some (.integer (left * right))
  | left, right => do some (.real ((← left.nearest?).mul (← right.nearest?)))

/-- One is added, and the sum with an integer is exact. -/
def plusOne : Amount → Amount
  | .integer value => .integer (1 + value)
  | .real value => .real (one.add value)

def isAtMostZero : Amount → Bool
  | .integer value => value ≤ 0
  | .real value => value.atMost .zero

/-- An integer is equal to a real number when the real number is finite and has that value. -/
def equals : Amount → Amount → Bool
  | .integer left, .integer right => left == right
  | .real left, .real right => left.equals right
  | .integer left, .real (.finite right) => left * unitsPerOne == right.units
  | .real (.finite left), .integer right => left.units == right * unitsPerOne
  | _, _ => false

theorem nearest?_integer (value : Int) :
    nearest? (.integer value) = (ofInt value).finite?.map .finite := rfl

theorem nearest?_integer_eq_some_iff {value : Int} {number : Finite} :
    nearest? (.integer value) = some (.finite number) ↔ ofInt value = .finite number := by
  simp [nearest?_integer]

theorem eq_ofInt_of_nearest {value : Int} {number : Binary64}
    (isNearest : nearest? (.integer value) = some number) : number = ofInt value := by
  rw [nearest?_integer, Option.map_eq_some_iff] at isNearest
  obtain ⟨found, isFinite, equal⟩ := isNearest
  rw [finite?_eq_some_iff.mp isFinite, equal]

@[simp]
theorem nearest?_real (value : Binary64) : nearest? (.real value) = some value := rfl

@[simp]
theorem plusOne_integer (value : Int) : plusOne (.integer value) = .integer (1 + value) := rfl

@[simp]
theorem plusOne_real (value : Binary64) : plusOne (.real value) = .real (one.add value) := rfl

@[simp]
theorem times?_real (left right : Binary64) :
    times? (.real left) (.real right) = some (.real (left.mul right)) := rfl

/-- Integers are multiplied without rounding. -/
@[simp]
theorem times?_integer (left right : Int) :
    times? (.integer left) (.integer right) = some (.integer (left * right)) := rfl

end Amount

end Casework
