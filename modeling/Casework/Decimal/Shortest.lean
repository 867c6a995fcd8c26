import Casework.Decimal.Basic

namespace Casework.Decimal

open Binary64

/-- The decimal reads back when its nearest binary64 number is the magnitude itself. -/
def readsBack (value : Finite) (candidate : Decimal) : Bool :=
  candidate.toBinary64 false == .finite value.magnitude

/-- These are the two neighbours of the magnitude among the multiples of `10 ^ exponent`,
the nearer one first. Of two equally near ones the even one is first. -/
def neighbours (value : Finite) (exponent : Int) : List Decimal :=
  let steps := inSteps value exponent
  let below := steps.1 / steps.2
  let near := nearestEven steps.1 steps.2
  [⟨near, exponent⟩, ⟨below + (below + 1 - near), exponent⟩]

/-- This is the nearest decimal with the given count of digits, if one reads back. -/
def withDigits? (value : Finite) (count : Nat) : Option Decimal :=
  ((neighbours value (firstDigitExponent value + 1 - count)).map trim).find? (readsBack value)

/-- Decimals of one digit are tried first, then of two, up to seventeen. The exact decimal
stands in if none reads back. -/
def shortest (value : Finite) : Decimal :=
  if value.isZero then ⟨0, 0⟩
  else ((List.range 17).findSome? fun before => withDigits? value (before + 1)).getD (exact value)

theorem readsBack_of_withDigits {value : Finite} {count : Nat} {found : Decimal}
    (isFound : withDigits? value count = some found) : readsBack value found = true :=
  List.find?_some isFound

/-- The decimal of a number that is not zero reads back or is exact. -/
theorem readsBack_shortest {value : Finite} (nonzero : value.isZero = false) :
    readsBack value (shortest value) = true ∨ shortest value = exact value := by
  unfold shortest
  simp only [nonzero, Bool.false_eq_true, if_false]
  cases found : (List.range 17).findSome? fun before => withDigits? value (before + 1) with
  | none => exact .inr rfl
  | some decimal =>
      obtain ⟨before, _, isFound⟩ := List.exists_of_findSome?_eq_some found
      exact .inl (readsBack_of_withDigits isFound)

end Casework.Decimal
