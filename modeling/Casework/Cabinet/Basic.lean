import Casework.Bindings.Form

namespace Casework

open Binary64

/-- A measure is a finite number that is not below zero. -/
structure Measure where
  value : Finite
  notBelow : 0 ≤ value.units
  deriving DecidableEq

namespace Cabinet

/-- These are the families of cabinets. -/
inductive Family where
  | base
  | wall
  | tall
  | drawer
  | corner
  | specialty
  deriving DecidableEq

namespace Family

def all : List Family := [.base, .wall, .tall, .drawer, .corner, .specialty]

def name : Family → String
  | .base => "base"
  | .wall => "wall"
  | .tall => "tall"
  | .drawer => "drawer"
  | .corner => "corner"
  | .specialty => "specialty"

def ofName? (name : String) : Option Family := all.find? fun family => family.name == name

@[simp]
theorem ofName_name (family : Family) : ofName? family.name = some family := by
  cases family <;> decide +kernel

end Family

/-- These are the outside dimensions in millimetres. -/
structure Dimensions where
  width : Measure
  height : Measure
  depth : Measure
  deriving DecidableEq

/-- Every dimension stands under its name. -/
def Dimensions.fields (dimensions : Dimensions) : List (String × Measure) :=
  [("width", dimensions.width), ("height", dimensions.height), ("depth", dimensions.depth)]

/-- These are the least and the greatest dimensions allowed. -/
structure Limits where
  minimum : Dimensions
  maximum : Dimensions
  deriving DecidableEq

/-- These are the board thicknesses in millimetres. The last five are optional. -/
structure Thicknesses where
  side : Binary64
  topBottom : Binary64
  back : Binary64
  shelf : Binary64
  door : Binary64
  drawer : Option Binary64
  fixedPanel : Option Binary64
  drawerBottom : Option Binary64
  uprights : Option Binary64
  doubleBack : Option Binary64
  deriving DecidableEq

namespace Thicknesses

/-- Every thickness stands under its field name and its parameter. -/
def fields (thicknesses : Thicknesses) : List (String × String × Option Binary64) :=
  [("side", "side", some thicknesses.side),
    ("top_bottom", "topBottom", some thicknesses.topBottom),
    ("back", "back", some thicknesses.back),
    ("shelf", "shelf", some thicknesses.shelf),
    ("door", "door", some thicknesses.door),
    ("drawer", "drawer", thicknesses.drawer),
    ("fixed_panel", "fixedPanel", thicknesses.fixedPanel),
    ("drawer_bottom", "drawerBottom", thicknesses.drawerBottom),
    ("uprights", "uprights", thicknesses.uprights),
    ("double_back", "doubleBack", thicknesses.doubleBack)]

/-- Boards are 18 millimetres thick and backs 12. -/
def standard : Thicknesses :=
  ⟨ofInt 18, ofInt 18, ofInt 12, ofInt 18, ofInt 18, none, none, none, none, none⟩

end Thicknesses

/-- These are the construction choices. -/
structure Construction where
  hasTop : Bool
  hasBottom : Bool
  hasBack : Bool
  isCorner : Bool
  hasDoubleBack : Bool
  hasToe : Bool
  hasFixedShelf : Bool
  hasFrontPanel : Bool
  hasFillerPanel : Bool
  hasUprights : Bool
  deriving DecidableEq

namespace Construction

/-- Every choice stands under its field name and its parameter. -/
def fields (construction : Construction) : List (String × String × Bool) :=
  [("has_top", "hasTop", construction.hasTop),
    ("has_bottom", "hasBottom", construction.hasBottom),
    ("has_back", "hasBack", construction.hasBack),
    ("is_corner", "isCorner", construction.isCorner),
    ("has_double_back", "hasDoubleBack", construction.hasDoubleBack),
    ("has_toe", "hasToe", construction.hasToe),
    ("has_fixed_shelf", "hasFixedShelf", construction.hasFixedShelf),
    ("has_front_panel", "hasFrontPanel", construction.hasFrontPanel),
    ("has_filler_panel", "hasFillerPanel", construction.hasFillerPanel),
    ("has_uprights", "hasUprights", construction.hasUprights)]

/-- A cabinet has a top, a bottom and a back and nothing else. -/
def standard : Construction :=
  ⟨true, true, true, false, false, false, false, false, false, false⟩

end Construction

end Cabinet

/-- A cabinet has dimensions, thicknesses, construction choices and counts of its parts. -/
structure Cabinet where
  name : String
  family : Cabinet.Family
  dimensions : Cabinet.Dimensions
  thicknesses : Cabinet.Thicknesses
  construction : Cabinet.Construction
  doorCount : Nat
  drawerCount : Nat
  shelves : Nat
  limits : Option Cabinet.Limits
  deriving DecidableEq

namespace Cabinet

def measureForm (measure : Measure) : Form := .real (.finite measure.value)

def Dimensions.form (dimensions : Dimensions) : List (String × Form) :=
  dimensions.fields.map fun field => (field.1, measureForm field.2)

/-- Dimensions and counts come first, then the thicknesses that are given, then the choices. -/
def parameters (cabinet : Cabinet) : List (String × Form) :=
  cabinet.dimensions.form ++
    [("doorCount", .integer cabinet.doorCount), ("drawerCount", .integer cabinet.drawerCount)] ++
    cabinet.thicknesses.fields.filterMap (fun field =>
      field.2.2.map fun thickness => (field.2.1, .real thickness)) ++
    cabinet.construction.fields.map fun field => (field.2.1, .flag field.2.2)

/-- A cabinet binds its parameters if all of them are values. -/
def bindings (cabinet : Cabinet) : Except Bindings.FormError Bindings :=
  Bindings.ofPairs cabinet.parameters

/-- These are the pairs of a dimension with its limits. -/
def limited (dimensions : Dimensions) (limits : Limits) :
    List (String × Measure × Measure × Measure) :=
  [("width", dimensions.width, limits.minimum.width, limits.maximum.width),
    ("height", dimensions.height, limits.minimum.height, limits.maximum.height),
    ("depth", dimensions.depth, limits.minimum.depth, limits.maximum.depth)]

def millimetres (measure : Measure) : String :=
  (Binary64.finite measure.value).generalText ++ "mm"

/-- A dimension outside its limits is reported, and the lower limit is compared first. -/
def limitProblem? (name : String) (value least greatest : Measure) : Option String :=
  if value.value.less least.value then
    some (name ++ " " ++ millimetres value ++ " is below the minimum of " ++ millimetres least)
  else if greatest.value.less value.value then
    some (name ++ " " ++ millimetres value ++ " is above the maximum of " ++ millimetres greatest)
  else none

/-- These are the reports of all dimensions outside their limits. -/
def limitProblems (cabinet : Cabinet) : List String :=
  match cabinet.limits with
  | none => []
  | some limits =>
    (limited cabinet.dimensions limits).filterMap fun entry =>
      limitProblem? entry.1 entry.2.1 entry.2.2.1 entry.2.2.2

end Cabinet

end Casework
