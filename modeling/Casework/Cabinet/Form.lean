import Casework.Cabinet.Basic

namespace Casework

open Form

/-- A measure is given as a finite number that is not below zero. -/
def Measure.field (form : Form) : Checked Measure := do
  let value ← finiteField form
  if notBelow : 0 ≤ value.units then .ok ⟨value, notBelow⟩ else fault .tooSmall

namespace Cabinet

def Dimensions.ofFields (fields : List (String × Form)) : Checked Dimensions :=
  let width := required fields "width" Measure.field
  let height := required fields "height" Measure.field
  let depth := required fields "depth" Measure.field
  Checked.apply (width.map Dimensions.mk) height |>.apply depth

def Limits.ofFields (fields : List (String × Form)) : Checked Limits :=
  let minimum := required fields "minimum" (recordField Dimensions.ofFields)
  let maximum := required fields "maximum" (recordField Dimensions.ofFields)
  Checked.apply (minimum.map Limits.mk) maximum

/-- A thickness that is not given is the standard one. -/
def Thicknesses.ofFields (fields : List (String × Form)) : Checked Thicknesses :=
  let board (name : String) (standard : Binary64) := optional fields name standard numberField
  let extra (name : String) := optional fields name none (absentOr numberField)
  let side := board "side" Thicknesses.standard.side
  Checked.apply (side.map Thicknesses.mk) (board "top_bottom" Thicknesses.standard.topBottom)
    |>.apply (board "back" Thicknesses.standard.back)
    |>.apply (board "shelf" Thicknesses.standard.shelf)
    |>.apply (board "door" Thicknesses.standard.door)
    |>.apply (extra "drawer")
    |>.apply (extra "fixed_panel")
    |>.apply (extra "drawer_bottom")
    |>.apply (extra "uprights")
    |>.apply (extra "double_back")

/-- A choice that is not given is the standard one. -/
def Construction.ofFields (fields : List (String × Form)) : Checked Construction :=
  let choice (name : String) (standard : Bool) := optional fields name standard flagField
  let top := choice "has_top" Construction.standard.hasTop
  Checked.apply (top.map Construction.mk) (choice "has_bottom" Construction.standard.hasBottom)
    |>.apply (choice "has_back" Construction.standard.hasBack)
    |>.apply (choice "is_corner" Construction.standard.isCorner)
    |>.apply (choice "has_double_back" Construction.standard.hasDoubleBack)
    |>.apply (choice "has_toe" Construction.standard.hasToe)
    |>.apply (choice "has_fixed_shelf" Construction.standard.hasFixedShelf)
    |>.apply (choice "has_front_panel" Construction.standard.hasFrontPanel)
    |>.apply (choice "has_filler_panel" Construction.standard.hasFillerPanel)
    |>.apply (choice "has_uprights" Construction.standard.hasUprights)

/-- A cabinet is a base cabinet with one door, three drawers and one shelf unless its form says
otherwise. -/
def ofFields (fields : List (String × Form)) : Checked Cabinet :=
  let name := required fields "name" textField
  let family := optional fields "cabinet_type" .base (choiceField Family.ofName?)
  let dimensions := required fields "dimensions" (recordField Dimensions.ofFields)
  let thicknesses :=
    optional fields "thickness" .standard (recordField Thicknesses.ofFields)
  let construction :=
    optional fields "construction" .standard (recordField Construction.ofFields)
  let doorCount := optional fields "door_count" 1 countField
  let drawerCount := optional fields "drawer_count" 3 countField
  let shelves := optional fields "shelves" 1 countField
  let limits := optional fields "limits" none (absentOr (recordField Limits.ofFields))
  Checked.apply (name.map Cabinet.mk) family
    |>.apply dimensions
    |>.apply thicknesses
    |>.apply construction
    |>.apply doorCount
    |>.apply drawerCount
    |>.apply shelves
    |>.apply limits

/-- The given dimensions replace the old ones, and all of them are checked. -/
def resize (cabinet : Cabinet) (changes : List (String × Form)) : Checked Cabinet :=
  (Dimensions.ofFields (changes ++ cabinet.dimensions.form)).map fun dimensions =>
    { cabinet with dimensions := dimensions }

end Cabinet

end Casework
