import Casework.Value

namespace Casework.Parameter

/-- Dimensions, material thicknesses and counts are numbers. -/
def numbers : List String :=
  ["width", "height", "depth", "side", "topBottom", "back", "shelf", "door", "drawer",
    "fixedPanel", "drawerBottom", "uprights", "doubleBack", "doorCount", "drawerCount"]

/-- Construction choices are flags. -/
def flags : List String :=
  ["hasTop", "hasBottom", "hasBack", "isCorner", "hasDoubleBack", "hasToe", "hasFixedShelf",
    "hasFrontPanel", "hasFillerPanel", "hasUprights"]

/-- These are the canonical parameters with their kinds. -/
def canonical : List (String × Kind) :=
  numbers.map (·, .number) ++ flags.map (·, .boolean)

def kind? (name : String) : Option Kind := canonical.lookup name

theorem kind_of_mem_numbers {name : String} (isNumber : name ∈ numbers) :
    kind? name = some .number := by
  revert name
  decide +kernel

theorem kind_of_mem_flags {name : String} (isFlag : name ∈ flags) :
    kind? name = some .boolean := by
  revert name
  decide +kernel

end Casework.Parameter
