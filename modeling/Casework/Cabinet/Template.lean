import Casework.Cabinet.Basic
import Casework.Part

namespace Casework

namespace Cabinet

/-- A choice is a panel with the condition for having it. -/
structure Choice where
  isChosen : Bool
  panel : Panel

/-- Sides are always there. Doors are there unless the cabinet is a drawer unit, and drawers
only then. -/
def choices (cabinet : Cabinet) : List Choice :=
  let construction := cabinet.construction
  let isDrawerUnit := cabinet.family = .drawer
  let hasDrawers := isDrawerUnit ∧ 0 < cabinet.drawerCount
  let door : Part :=
    if cabinet.family = .corner then ⟨"width / 2 - 3", "height - 6"⟩ else .door
  let top : Part := ⟨Part.carcassDepth, Part.innerWidth⟩
  let shelf (lessDepth lessWidth : String) : Part :=
    ⟨Part.carcassDepth ++ lessDepth, Part.innerWidth ++ lessWidth⟩
  let drawers := cabinet.drawerCount
  [⟨true, Part.side.panel (.mk "Side Panel") 2 ["side"] none⟩,
    ⟨construction.hasTop, top.panel (.mk "Top Panel") 1 ["topBottom"] none⟩,
    ⟨construction.hasBottom, top.panel (.mk "Bottom Panel") 1 ["topBottom"] none⟩,
    ⟨construction.hasBack, Part.back.panel (.mk "Back Panel") 1 ["back"] none⟩,
    ⟨construction.hasDoubleBack,
      Part.back.panel (.mk "Double Back Panel") 1 ["doubleBack", "back"] none⟩,
    ⟨construction.hasFixedShelf,
      (shelf " - 20" " - 3").panel (.mk "Fixed Shelf") 1 ["shelf"] none⟩,
    ⟨0 < cabinet.shelves,
      (shelf " - 50" " - 6").panel (.mk "Adjustable Shelf") cabinet.shelves ["shelf"] none⟩,
    ⟨hasDrawers, Part.drawerFront.panel (.mk "Drawer Front") drawers ["door"] none⟩,
    ⟨hasDrawers,
      Part.drawerSide.panel (.mk "Drawer Side") (2 * drawers) ["drawer"] (some (.ofInt 15))⟩,
    ⟨hasDrawers,
      Part.drawerBack.panel (.mk "Drawer Back") drawers ["drawer"] (some (.ofInt 15))⟩,
    ⟨hasDrawers,
      Part.drawerBottom.panel (.mk "Drawer Bottom") drawers ["drawerBottom"]
        (some (.ofInt 12))⟩,
    ⟨¬ isDrawerUnit ∧ 0 < cabinet.doorCount,
      door.panel (.mk "Door") cabinet.doorCount ["door"] none⟩]

theorem distinct_choices (cabinet : Cabinet) :
    (cabinet.choices.map fun choice => choice.panel.name.text).Nodup := by
  simp [choices, Part.panel]

/-- The standard panels of a cabinet form its template. -/
def template (cabinet : Cabinet) : Template :=
  ⟨cabinet.name, (cabinet.choices.filter Choice.isChosen).map Choice.panel, by
    rw [List.map_map]
    exact (distinct_choices cabinet).sublist (List.filter_sublist.map _)⟩

end Cabinet

end Casework
