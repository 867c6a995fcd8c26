import Casework.Binary64.Basic

namespace Casework

/-- This is the number `coefficient * 10 ^ exponent`. -/
structure Decimal where
  coefficient : Nat
  exponent : Int
  deriving DecidableEq

namespace Decimal

open Binary64

/-- This is the nearest binary64 number with the given sign. The two bounds only keep the
powers of ten small: beyond them the result is an infinity or a zero anyway. -/
def toBinary64 (negative : Bool) (value : Decimal) : Binary64 :=
  if value.coefficient = 0 then .finite ⟨negative, 0, onGrid_zero⟩
  else
    match value.exponent with
    | .ofNat zeros =>
      if 400 ≤ zeros then .infinite negative
      else ofRatio negative (value.coefficient * Nat.pow 10 zeros) 1
    | .negSucc before =>
      let places := before + 1
      if value.coefficient.log2 + 1100 ≤ 3 * places then .finite ⟨negative, 0, onGrid_zero⟩
      else ofRatio negative value.coefficient (Nat.pow 10 places)

/-- Zeros at the end of the coefficient move into the exponent. -/
def trim (value : Decimal) : Decimal :=
  if ending : value.coefficient ≠ 0 ∧ value.coefficient % 10 = 0 then
    trim ⟨value.coefficient / 10, value.exponent + 1⟩
  else value
termination_by value.coefficient
decreasing_by omega

def digits (value : Decimal) : List Char := Nat.toDigits 10 value.coefficient

/-- This is the exponent of the first digit. -/
def leadingExponent (value : Decimal) : Int :=
  value.exponent + value.digits.length - 1

/-- Every finite number has an exact decimal. -/
def exact (value : Finite) : Decimal := ⟨value.count * Nat.pow 5 1074, -1074⟩

/-- This is the exponent of the first digit of a positive number. The factor `10 ^ 400`
makes even the least positive number larger than one. -/
def firstDigitExponent (value : Finite) : Int :=
  (Nat.toDigits 10 (value.count * Nat.pow 10 400 / unitsPerOne)).length - 401

/-- This is the magnitude in steps of `10 ^ exponent`, as a numerator and a denominator. -/
def inSteps (value : Finite) : (exponent : Int) → Nat × Nat
  | .ofNat zeros => (value.count, unitsPerOne * Nat.pow 10 zeros)
  | .negSucc before => (value.count * Nat.pow 10 (before + 1), unitsPerOne)

/-- The magnitude is rounded to a multiple of `10 ^ exponent`, and a half goes to the even
multiple. -/
def nearestMultiple (value : Finite) (exponent : Int) : Decimal :=
  let steps := inSteps value exponent
  ⟨nearestEven steps.1 steps.2, exponent⟩

end Decimal

end Casework
