import Casework.Amount

namespace Casework

open Binary64

/-- A sheet is a stock board with its sides in millimetres. -/
structure Sheet where
  name : String
  width : Amount
  height : Amount
  deriving DecidableEq

/-- One square metre has this many square millimetres. -/
def squareMillimetres : Nat := 1000000

/-- These are the reasons for an estimate to have no result. -/
inductive EstimateError where
  | zeroSheet
  | unbounded
  | notNumber
  | largeQuantity
  | largeQuotient
  deriving DecidableEq

def EstimateError.message : EstimateError → String
  | .zeroSheet => "float division by zero"
  | .unbounded => "cannot convert float infinity to integer"
  | .notNumber => "cannot convert float NaN to integer"
  | .largeQuantity => "int too large to convert to float"
  | .largeQuotient => "integer division result too large for a float"

/-- An amount has a nearest number unless it is a large integer. -/
def Amount.nearest (amount : Amount) : Except EstimateError Binary64 :=
  match amount.nearest? with
  | some number => .ok number
  | none => .error .largeQuantity

@[simp]
theorem Amount.nearest_real (value : Binary64) : (Amount.real value).nearest = .ok value := rfl

/-- Square millimetres become square metres with one rounding. -/
def Amount.squareMetres : Amount → Except EstimateError Binary64
  | .integer value =>
    match (ofRatio (value < 0) value.natAbs squareMillimetres).finite? with
    | some quotient => .ok (.finite quotient)
    | none => .error .largeQuotient
  | .real value => .ok (value.div (.ofInt squareMillimetres))

namespace Sheet

/-- This is the area in square metres. -/
def area (sheet : Sheet) : Except EstimateError Binary64 :=
  match sheet.width.times? sheet.height with
  | some product => product.squareMetres
  | none => .error .largeQuantity

/-- The sides of most sheets are real numbers, and such sheets have an area. -/
@[simp]
theorem area_of_real (name : String) (width height : Binary64) :
    area ⟨name, .real width, .real height⟩ =
      .ok ((width.mul height).div (.ofInt squareMillimetres)) := rfl

end Sheet

/-- Only a finite number has a least integer that is not below it. -/
def ceiling : Binary64 → Except EstimateError Int
  | .finite value => .ok value.ceiling
  | .infinite _ => .error .unbounded
  | .notNumber => .error .notNumber

/-- The area is divided into sheets, the waste is added, and a started sheet counts as a whole
one. -/
def Sheet.count (sheet : Sheet) (area waste : Amount) : Except EstimateError Int := do
  let sheetArea ← sheet.area
  let area ← area.nearest
  if sheetArea.isZero then .error .zeroSheet
  else do
    let factor ← waste.plusOne.nearest
    ceiling ((area.div sheetArea).mul factor)

end Casework
