import Casework.Cache
import Casework.Stock.Basic

namespace Casework

open Binary64

/-- This is the first thickness parameter that is bound to a number, or else the fixed
thickness. -/
def Panel.thicknessUnder (panel : Panel) (bindings : Bindings) : Option Binary64 :=
  (panel.thicknessParameters.findSome? fun name =>
    match bindings.get? name with
    | some (.number value) => some (.finite value)
    | _ => none).or panel.thickness

/-- A cut is the row of one panel. Every property of the panel is a dimension or an error. -/
structure Cut where
  name : String
  quantity : Nat
  thickness : Option Binary64
  dimensions : List (String × Finite)
  errors : List (String × Problem)

namespace Cut

def dimension? (cut : Cut) (property : String) : Option Finite :=
  cut.dimensions.lookup property

def isGood (cut : Cut) : Bool := cut.errors.isEmpty

/-- Only a good panel with a width and a height has an area in square metres. -/
def area? (cut : Cut) : Except EstimateError (Option Binary64) :=
  match cut.isGood, cut.dimension? "width", cut.dimension? "height" with
  | true, some width, some height => do
    let quantity ← (Amount.integer cut.quantity).nearest
    .ok (some (((width.mul height).mul quantity).div (.ofInt squareMillimetres)))
  | _, _, _ => .ok none

end Cut

/-- The outcomes of a panel are taken from the outcomes of the whole template. -/
def Panel.cut (panel : Panel) (outcomes : Outcomes) (bindings : Bindings) : Cut :=
  let results := panel.formulas.keys.filterMap fun property =>
    (outcomes.get? (qualifiedName panel.name.text property)).map fun outcome => (property, outcome)
  { name := panel.name.text
    quantity := panel.quantity
    thickness := panel.thicknessUnder bindings
    dimensions := results.filterMap fun result =>
      match result.2 with
      | .ok value => some (result.1, value)
      | .error _ => none
    errors := results.filterMap fun result =>
      match result.2 with
      | .ok _ => none
      | .error problem => some (result.1, problem) }

/-- A cut list has a row for every panel, the area of all good rows and a count of every
sheet. -/
structure CutList where
  template : String
  cuts : List Cut
  areas : List (Option Binary64)
  totalArea : Binary64
  sheets : List (String × Int)

namespace CutList

/-- The areas are added from the left. -/
def total (areas : List (Option Binary64)) : Binary64 :=
  areas.foldl (fun sum area =>
    match area with
    | some area => sum.add area
    | none => sum) .zero

/-- This lists the results of all steps, or the first error. -/
def collect {Argument Result : Type} (step : Argument → Except EstimateError Result) :
    List Argument → Except EstimateError (List Result)
  | [] => .ok []
  | first :: rest => do
    let result ← step first
    let results ← collect step rest
    .ok (result :: results)

def ofCuts (template : String) (cuts : List Cut) (stock : Stock) :
    Except EstimateError CutList := do
  let areas ← collect Cut.area? cuts
  let totalArea := total areas
  let count (sheet : Sheet) := sheet.count (.real totalArea) stock.waste
  let sheets ← collect (fun sheet => (count sheet).map (sheet.name, ·)) stock.sheets
  .ok ⟨template, cuts, areas, totalArea, sheets⟩

def ofOutcomes (template : Template) (outcomes : Outcomes) (bindings : Bindings) (stock : Stock) :
    Except EstimateError CutList :=
  ofCuts template.name (template.panels.map fun panel => panel.cut outcomes bindings) stock

def ofTemplate (template : Template) (bindings : Bindings) (stock : Stock) :
    Except EstimateError CutList :=
  ofOutcomes template (template.outcomes bindings) bindings stock

/-- The formulas come from the cache once it is aligned, and the aligned cache is kept for the
next cut list. -/
def ofCache (cache : Cache) (template : Template) (bindings : Bindings) (stock : Stock) :
    Except EstimateError CutList × Cache :=
  let aligned := cache.align template
  (ofOutcomes template (aligned.outcomes bindings) bindings stock, aligned)

/-- These are the rows with an error. -/
def failed (list : CutList) : List Cut := list.cuts.filter fun cut => !cut.isGood

/-- A finished cut list is noted. -/
def notes (list : CutList) : Journal :=
  [⟨.info, "Cut list for " ++ list.template ++ ": " ++ list.cuts.length.repr ++ " panels, " ++
    list.totalArea.fixedText ++ " m2, " ++ list.failed.length.repr ++ " failed"⟩]

@[simp]
theorem total_append (areas : List (Option Binary64)) (area : Binary64) :
    total (areas ++ [some area]) = (total areas).add area := by
  simp [total]

end CutList

end Casework
