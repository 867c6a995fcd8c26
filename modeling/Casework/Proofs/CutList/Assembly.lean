import Casework.Part
import Casework.Proofs.CutList.Rows
import Casework.ToMathlib.Except
import Mathlib.Data.List.Forall2
import Mathlib.Data.List.ReduceOption

namespace Casework

open Binary64

/-- An amount without a nearest number is too large. -/
theorem Amount.nearest_of_none {amount : Amount} (large : amount.nearest? = none) :
    amount.nearest = .error .largeQuantity := by
  unfold nearest
  rw [large]

theorem Amount.nearest_of_some {amount : Amount} {number : Binary64}
    (isNearest : amount.nearest? = some number) : amount.nearest = .ok number := by
  unfold nearest
  rw [isNearest]

namespace Cut

/-- This is the area of a row without errors that has both sides. A quantity beyond the finite
numbers counts as an infinity here. -/
def wideArea? (cut : Cut) : Option Binary64 :=
  match cut.isGood, cut.dimension? "width", cut.dimension? "height" with
  | true, some width, some height =>
    some (((width.mul height).mul (.ofInt cut.quantity)).div (.ofInt squareMillimetres))
  | _, _, _ => none

/-- Only a quantity beyond the finite numbers keeps an area from being computed. -/
theorem area_eq (cut : Cut) :
    cut.area? =
      if cut.wideArea?.isSome ∧ (Amount.integer cut.quantity).nearest? = none then
        .error .largeQuantity
      else .ok cut.wideArea? := by
  unfold area? wideArea?
  cases nearest : (Amount.integer cut.quantity).nearest? with
  | none =>
      rw [Amount.nearest_of_none nearest]
      cases cut.isGood <;> cases cut.dimension? "width" <;> cases cut.dimension? "height" <;>
        simp
  | some number =>
      rw [Amount.nearest_of_some nearest, ← Amount.eq_ofInt_of_nearest nearest]
      cases cut.isGood <;> cases cut.dimension? "width" <;> cases cut.dimension? "height" <;>
        simp

/-- An area that is computed is the one in wide arithmetic. -/
theorem eq_wideArea_of_area {cut : Cut} {area : Option Binary64} (hasArea : cut.area? = .ok area) :
    area = cut.wideArea? := by
  rw [area_eq] at hasArea
  split at hasArea
  · contradiction
  · exact (Except.ok.inj hasArea).symm

/-- A row has an area exactly when it has no error and both sides, and then it is the product of
the sides and the quantity in square metres. -/
structure Measures (cut : Cut) (area : Option Binary64) : Prop where
  isSome_iff : area.isSome = true ↔ cut.errors = [] ∧
    (cut.dimension? "width").isSome = true ∧ (cut.dimension? "height").isSome = true
  product : ∀ width height found, cut.dimension? "width" = some width →
    cut.dimension? "height" = some height → area = some found →
    found = ((width.mul height).mul (.ofInt cut.quantity)).div (.ofInt squareMillimetres)

/-- The area in wide arithmetic measures the row. -/
theorem measures_wideArea (cut : Cut) : cut.Measures cut.wideArea? := by
  have goodIff : cut.isGood = true ↔ cut.errors = [] := List.isEmpty_iff
  constructor
  · rw [← goodIff]
    unfold wideArea?
    cases cut.isGood <;> cases cut.dimension? "width" <;> cases cut.dimension? "height" <;> simp
  · intro width height found isWidth isHeight isArea
    unfold wideArea? at isArea
    rw [isWidth, isHeight] at isArea
    cases good : cut.isGood with
    | false => simp [good] at isArea
    | true =>
        rw [good] at isArea
        exact (Option.some.inj isArea).symm

end Cut

namespace CutList

/-- All steps succeed exactly when their results are collected. -/
theorem collect_eq_ok_iff {Argument Result : Type} {step : Argument → Except EstimateError Result}
    {arguments : List Argument} {results : List Result} :
    collect step arguments = .ok results ↔ arguments.map step = results.map .ok := by
  induction arguments generalizing results with
  | nil => cases results <;> simp [collect]
  | cons argument rest inductionHypothesis =>
      simp only [collect, Except.bind_eq_ok_iff]
      constructor
      · rintro ⟨first, isFirst, others, areOthers, equal⟩
        cases equal
        rw [List.map_cons, List.map_cons, isFirst, inductionHypothesis.mp areOthers]
      · intro equal
        cases results with
        | nil => simp at equal
        | cons first others =>
            rw [List.map_cons, List.map_cons, List.cons.injEq] at equal
            exact ⟨first, equal.1, others, inductionHypothesis.mpr equal.2, rfl⟩

/-- The areas of a list are those in wide arithmetic. -/
theorem eq_wideAreas {cuts : List Cut} {areas : List (Option Binary64)}
    (each : cuts.map Cut.area? = areas.map .ok) : areas = cuts.map Cut.wideArea? := by
  induction cuts generalizing areas with
  | nil => simpa [eq_comm] using each
  | cons cut rest inductionHypothesis =>
      cases areas with
      | nil => simp at each
      | cons area others =>
          rw [List.map_cons, List.map_cons, List.cons.injEq] at each
          rw [List.map_cons, Cut.eq_wideArea_of_area each.1, inductionHypothesis each.2]

/-- A finished cut list has the given rows, an area for each, their total and a count for each
sheet of the stock. -/
structure Finished (list : CutList) (template : String) (cuts : List Cut) (stock : Stock) :
    Prop where
  sameName : list.template = template
  sameCuts : list.cuts = cuts
  areas_eq : list.areas = cuts.map Cut.wideArea?
  total_eq : list.totalArea = total list.areas
  counts_eq : (stock.sheets.map fun sheet =>
    (sheet.count (.real list.totalArea) stock.waste).map (sheet.name, ·)) = list.sheets.map .ok

/-- A list of cuts that succeeds is finished. -/
theorem finished_of_ofCuts {template : String} {cuts : List Cut} {stock : Stock} {list : CutList}
    (isList : ofCuts template cuts stock = .ok list) : list.Finished template cuts stock := by
  obtain ⟨areas, areAreas, others⟩ := Except.bind_eq_ok_iff.mp isList
  obtain ⟨sheets, areSheets, equal⟩ := Except.bind_eq_ok_iff.mp others
  cases equal
  exact ⟨rfl, rfl, eq_wideAreas (collect_eq_ok_iff.mp areAreas), rfl,
    collect_eq_ok_iff.mp areSheets⟩

/-- The rows of a cut list are those of its panels alone. -/
theorem ofTemplate_eq_ofCuts (template : Template) (bindings : Bindings) (stock : Stock) :
    ofTemplate template bindings stock =
      ofCuts template.name (template.panels.map fun panel => panel.cutAlone bindings) stock := by
  rw [← Template.map_cut_outcomes]
  rfl

/-- A cut list of a template has the rows of its panels, each by itself. -/
theorem finished_of_ofTemplate {template : Template} {bindings : Bindings} {stock : Stock}
    {list : CutList} (isList : ofTemplate template bindings stock = .ok list) :
    list.Finished template.name (template.panels.map fun panel => panel.cutAlone bindings)
      stock := by
  rw [ofTemplate_eq_ofCuts] at isList
  exact finished_of_ofCuts isList

/-- The total adds the areas that are there, from the left. -/
theorem total_eq_foldl (areas : List (Option Binary64)) :
    total areas = areas.reduceOption.foldl Binary64.add .zero := by
  unfold total List.reduceOption
  rw [List.foldl_filterMap]
  congr 1
  funext sum area
  cases area <;> rfl

end CutList

/-- One panel of a template gets other formulas. -/
def Template.replaceFormulas (template : Template) (index : Nat)
    (formulas : OrderedMap String String) : Template :=
  ⟨template.name, template.panels.modify index fun panel => { panel with formulas := formulas }, by
    have sameNames : ((template.panels.modify index fun panel =>
        { panel with formulas := formulas }).map fun panel => panel.name.text) =
          template.panels.map fun panel => panel.name.text := by
      apply List.ext_getElem?
      intro place
      rw [List.getElem?_map, List.getElem?_map, List.getElem?_modify, Option.map_eq_map,
        Option.map_map]
      congr 1
      funext panel
      show (if index = place then _ else panel : Panel).name.text = panel.name.text
      split <;> rfl
    rw [sameNames]
    exact template.distinct⟩

namespace CutList

/-- The rows of a finished cut list report the panels one by one and in order. A row has an area
exactly when it has no error and both sides, the rows with an error are the failed ones, and the
total is the sum of the areas from the left. New formulas for one panel leave all other rows and
their areas as they are. -/
theorem ofTemplate_faithful (template : Template) (bindings : Bindings) (stock : Stock)
    (list : CutList) (isList : ofTemplate template bindings stock = .ok list) :
    List.Forall₂ (fun panel cut => Cut.Reports cut panel bindings) template.panels list.cuts ∧
    List.Forall₂ Cut.Measures list.cuts list.areas ∧
    list.failed = list.cuts.filter (fun cut => cut.errors ≠ []) ∧
    list.totalArea = list.areas.reduceOption.foldl Binary64.add .zero ∧
    ∀ index formulas changed,
      ofTemplate (template.replaceFormulas index formulas) bindings stock = .ok changed →
      ∀ other, other ≠ index →
        changed.cuts[other]? = list.cuts[other]? ∧ changed.areas[other]? = list.areas[other]? := by
  have finished := finished_of_ofTemplate isList
  refine ⟨?_, ?_, ?_, ?_, ?_⟩
  · rw [finished.sameCuts, List.forall₂_map_right_iff, List.forall₂_same]
    exact fun panel _ => Cut.reports_cutAlone panel bindings
  · rw [finished.areas_eq, finished.sameCuts, List.forall₂_map_right_iff, List.forall₂_same]
    exact fun cut _ => cut.measures_wideArea
  · unfold failed
    congr 1
    funext cut
    cases errors : cut.errors <;> simp [Cut.isGood, errors]
  · rw [finished.total_eq, total_eq_foldl]
  · intro index formulas changed isChanged other different
    have finishedChanged := finished_of_ofTemplate isChanged
    have sameCut : changed.cuts[other]? = list.cuts[other]? := by
      have elsewhere : ¬ index = other := fun equal => different equal.symm
      rw [finishedChanged.sameCuts, finished.sameCuts, List.getElem?_map, List.getElem?_map]
      unfold Template.replaceFormulas
      rw [List.getElem?_modify]
      simp [elsewhere]
    refine ⟨sameCut, ?_⟩
    rw [finishedChanged.areas_eq, finished.areas_eq, ← finishedChanged.sameCuts,
      ← finished.sameCuts, List.getElem?_map, List.getElem?_map, sameCut]

/-- An unknown parameter fails its own row and leaves the other row in the total. -/
theorem ofTemplate_faithful_gap :
    let whole := Part.panel ⟨"1000", "500"⟩ { text := "Whole" } 1 [] none
    let broken := Part.panel ⟨"gap", "500"⟩ { text := "Broken" } 1 [] none
    let template : Template := ⟨"t", [whole, broken], by decide +kernel⟩
    ∃ list, ofTemplate template .empty .standard = .ok list ∧
      List.Forall₂ (fun panel cut => Cut.Reports cut panel .empty) [whole, broken] list.cuts ∧
      list.failed.map Cut.name = ["Broken"] ∧
      list.totalArea = .ofRatio false 1 2 := by
  intro whole broken template
  have finishes : (ofTemplate template .empty .standard).toOption.any (fun list =>
      list.failed.map Cut.name = ["Broken"] ∧ list.totalArea = .ofRatio false 1 2) = true := by
    decide +kernel
  obtain ⟨list, isOk, found⟩ := Except.any_toOption_iff.mp finishes
  exact ⟨list, isOk, (ofTemplate_faithful template .empty .standard list isOk).1,
    of_decide_eq_true found⟩

end CutList

end Casework
