import Casework.Template.Form
import Casework.Text.Quoted

namespace Casework

/-- A part has one formula for its width and one for its height. -/
structure Part where
  width : String
  height : String
  deriving DecidableEq

namespace Part

def formulas (part : Part) : OrderedMap String String :=
  ⟨[("width", part.width), ("height", part.height)], by simp⟩

/-- A panel is made from a part in some quantity. -/
def panel (part : Part) (name : PanelName) (quantity : Nat) (parameters : List String)
    (thickness : Option Binary64) : Panel :=
  ⟨name, part.formulas, quantity, parameters, thickness⟩

def carcassDepth : String := "depth - (hasBack ? back : 0)"

def carcassHeight : String :=
  "height - (hasTop ? topBottom : 0) - (hasBottom ? topBottom : 0)"

def innerWidth : String := "width - (2 * side)"

def side : Part := ⟨carcassDepth, carcassHeight⟩

def back : Part := ⟨innerWidth, carcassHeight⟩

def door : Part := ⟨"width / doorCount - 6", "height - 6"⟩

def drawerFront : Part := ⟨"width - 6", "(height - 12) / drawerCount - 3"⟩

def drawerSide : Part := ⟨"depth - 80", "(height - 12) / drawerCount - 30"⟩

def drawerBack : Part := ⟨"width - 90", "(height - 12) / drawerCount - 30"⟩

def drawerBottom : Part := ⟨"width - 90", "depth - 80"⟩

/-- These are the standard parts with their names. -/
def standard : List (String × Part) :=
  [("side_panel", side),
    ("top_panel", ⟨innerWidth, carcassDepth⟩),
    ("bottom_panel", ⟨innerWidth, carcassDepth⟩),
    ("back_panel", back),
    ("fixed_shelf", ⟨innerWidth ++ " - 3", carcassDepth ++ " - 20"⟩),
    ("adjustable_shelf", ⟨innerWidth ++ " - 6", carcassDepth ++ " - 50"⟩),
    ("door", door),
    ("drawer_front", drawerFront),
    ("drawer_side", drawerSide),
    ("drawer_back", drawerBack),
    ("drawer_bottom", drawerBottom)]

def named? (name : String) : Option Part := standard.lookup name

/-- A panel is refused when its part is not known or its fields are faulty. -/
inductive PanelError where
  | unknownPart (name : String)
  | faulty (faults : List Form.Fault)

def unknownMessage (name : String) : String := "Unknown part type: " ++ Text.quoted name

/-- An empty form counts as a field that is not there. -/
def isEmptyForm : Form → Bool
  | .absent => true
  | .flag value => !value
  | .integer value => value == 0
  | .real value => value.isZero
  | .text value => value.isEmpty
  | .list items => items.isEmpty
  | .record fields => fields.isEmpty

/-- A panel takes its formulas from the part and its other fields from a form. -/
def panelOfFields (part : Part) (fields : List (String × Form)) : Form.Checked Panel :=
  let given := fields.filter fun field =>
    !(field.1 == "formulas" || field.1 == "thickness_params" && isEmptyForm field.2)
  let formulas := Form.record (part.formulas.entries.map fun entry => (entry.1, .text entry.2))
  Panel.ofFields (("formulas", formulas) :: given)

/-- The part is looked up before the fields are checked. -/
def panelNamed (name : String) (fields : List (String × Form)) : Except PanelError Panel :=
  match named? name with
  | none => .error (.unknownPart name)
  | some part => (part.panelOfFields fields).mapError .faulty

end Part

end Casework
