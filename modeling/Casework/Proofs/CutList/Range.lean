import Casework.Proofs.Binary64.Finiteness
import Casework.Proofs.CutList.Assembly

namespace Casework

open Binary64

namespace Sheet

variable {sheet : Sheet} {waste : Amount}

/-- The limit stays finite when it is divided into sheets and the waste is added. -/
def takesAll (sheet : Sheet) (waste : Amount) : Bool :=
  match sheet.area, waste.plusOne.nearest with
  | .ok (.finite area), .ok (.finite factor) =>
    let quotient := roundToGrid (countLimit * unitsPerOne) area.count
    !area.isZero && !factor.isZero && decide (quotient < countLimit) &&
      decide (roundToGrid (quotient * factor.count) unitsPerOne < countLimit)
  | _, _ => false

/-- A count is the quotient of the areas times the waste, rounded up. -/
theorem count_of_area {area factor : Binary64} (hasArea : sheet.area = .ok area)
    (nonzero : area.isZero = false) (hasFactor : waste.plusOne.nearest = .ok factor)
    (total : Binary64) :
    sheet.count (.real total) waste = ceiling ((total.div area).mul factor) := by
  unfold count
  rw [hasArea, Amount.nearest_real, hasFactor]
  simp [nonzero]

/-- The area of a sheet and the factor of the waste are finite and not zero. -/
theorem exists_of_takesAll (takes : sheet.takesAll waste = true) :
    ∃ area factor : Finite, sheet.area = .ok (.finite area) ∧
      waste.plusOne.nearest = .ok (.finite factor) ∧
      area.isZero = false ∧ factor.isZero = false ∧
      roundToGrid (countLimit * unitsPerOne) area.count < countLimit ∧
      roundToGrid (roundToGrid (countLimit * unitsPerOne) area.count * factor.count)
        unitsPerOne < countLimit := by
  unfold takesAll at takes
  split at takes
  · rename_i area factor hasArea hasFactor
    simp only [Bool.and_eq_true, Bool.not_eq_true', decide_eq_true_eq] at takes
    obtain ⟨⟨⟨areaNonzero, factorNonzero⟩, quotientBounded⟩, productBounded⟩ := takes
    exact ⟨area, factor, hasArea, hasFactor, areaNonzero, factorNonzero, quotientBounded,
      productBounded⟩
  · contradiction

/-- Every finite area has a count. -/
theorem exists_count (takes : sheet.takesAll waste = true) (total : Finite) :
    ∃ count, sheet.count (.real (.finite total)) waste = .ok count := by
  obtain ⟨area, factor, hasArea, hasFactor, nonzero, -, quotientBounded, productBounded⟩ :=
    exists_of_takesAll takes
  obtain ⟨quotient, isQuotient, below⟩ := Finite.exists_div nonzero quotientBounded total
  obtain ⟨product, isProduct⟩ := Finite.exists_mul below productBounded
  rw [count_of_area hasArea nonzero hasFactor]
  show ∃ count, ceiling ((total.div area).mul (.finite factor)) = .ok count
  rw [isQuotient]
  show ∃ count, ceiling (quotient.mul factor) = .ok count
  rw [isProduct]
  exact ⟨product.ceiling, rfl⟩

/-- No infinity has a count. -/
theorem count_infinite (takes : sheet.takesAll waste = true) (negative : Bool) :
    sheet.count (.real (.infinite negative)) waste = .error .unbounded := by
  obtain ⟨area, factor, hasArea, hasFactor, areaNonzero, factorNonzero, -⟩ :=
    exists_of_takesAll takes
  have isZero : (Binary64.finite factor).isZero = false := factorNonzero
  rw [count_of_area hasArea areaNonzero hasFactor]
  show ceiling ((Binary64.infinite _).mul (.finite factor)) = _
  unfold mul
  dsimp only
  rw [isZero]
  rfl

/-- A total that is no number has no count. -/
theorem count_notNumber (takes : sheet.takesAll waste = true) :
    sheet.count (.real .notNumber) waste = .error .notNumber := by
  obtain ⟨area, factor, hasArea, hasFactor, nonzero, -⟩ := exists_of_takesAll takes
  rw [count_of_area hasArea nonzero hasFactor]
  rfl

end Sheet

/-- The standard sheets take every finite area. -/
theorem Stock.standard_takesAll :
    ∀ sheet ∈ standard.sheets, sheet.takesAll standard.waste = true := by
  decide +kernel

namespace Cut

/-- The quantity of a row with an area is beyond the finite numbers. -/
def isUncountable (cut : Cut) : Bool :=
  cut.wideArea?.isSome && (Amount.integer cut.quantity).nearest?.isNone

/-- The area of a row with a quantity beyond the finite numbers is an error. -/
theorem area_of_isUncountable {cut : Cut} (uncountable : cut.isUncountable = true) :
    cut.area? = .error .largeQuantity := by
  unfold isUncountable at uncountable
  rw [Bool.and_eq_true, Option.isNone_iff_eq_none] at uncountable
  rw [area_eq, if_pos uncountable]

/-- Every other row has its area in wide arithmetic. -/
theorem area_of_not_isUncountable {cut : Cut} (countable : cut.isUncountable = false) :
    cut.area? = .ok cut.wideArea? := by
  have notBoth : ¬ (cut.wideArea?.isSome = true ∧
      (Amount.integer cut.quantity).nearest? = none) := by
    intro both
    rw [← Option.isNone_iff_eq_none, ← Bool.and_eq_true] at both
    exact absurd countable (by rw [isUncountable, both]; simp)
  rw [area_eq, if_neg notBoth]

/-- A quantity beyond the finite numbers has no finite area. -/
theorem isUncountable_of_finite {cut : Cut} {area : Finite}
    (isArea : cut.wideArea? = some (.finite area)) : cut.isUncountable = false := by
  have measures := cut.measures_wideArea
  have hasSides := measures.isSome_iff.mp (by rw [isArea]; rfl)
  obtain ⟨width, isWidth⟩ := Option.isSome_iff_exists.mp hasSides.2.1
  obtain ⟨height, isHeight⟩ := Option.isSome_iff_exists.mp hasSides.2.2
  have product := measures.product width height _ isWidth isHeight isArea
  obtain ⟨pieces, isPieces⟩ := exists_finite_of_div product.symm
  obtain ⟨-, quantity, isQuantity⟩ := mul_eq_finite isPieces
  have isNearest : (Amount.integer cut.quantity).nearest? = some (.finite quantity) :=
    Amount.nearest?_integer_eq_some_iff.mpr isQuantity
  rw [isUncountable, isNearest]
  simp

end Cut

namespace CutList

/-- The areas are collected unless some row is uncountable. -/
theorem collect_area (cuts : List Cut) :
    collect Cut.area? cuts =
      if cuts.any Cut.isUncountable then .error .largeQuantity
      else .ok (cuts.map Cut.wideArea?) := by
  induction cuts with
  | nil => rfl
  | cons cut rest inductionHypothesis =>
      unfold collect
      rw [inductionHypothesis]
      cases uncountable : cut.isUncountable with
      | true =>
          rw [Cut.area_of_isUncountable uncountable]
          simp [uncountable]
      | false =>
          rw [Cut.area_of_not_isUncountable uncountable]
          cases others : rest.any Cut.isUncountable <;>
            simp [uncountable, others]

/-- Steps that all succeed have a list of results. -/
theorem exists_collect {Argument Result : Type} {step : Argument → Except EstimateError Result}
    {arguments : List Argument}
    (each : ∀ argument ∈ arguments, ∃ result, step argument = .ok result) :
    ∃ results, collect step arguments = .ok results := by
  induction arguments with
  | nil => exact ⟨[], rfl⟩
  | cons argument rest inductionHypothesis =>
      obtain ⟨isFirst, areOthers⟩ := List.forall_mem_cons.mp each
      obtain ⟨first, isFirst⟩ := isFirst
      obtain ⟨others, areOthers⟩ := inductionHypothesis areOthers
      unfold collect
      rw [isFirst, areOthers]
      exact ⟨first :: others, rfl⟩

/-- Steps that all fail in the same way fail so together, if there are any. -/
theorem collect_of_error {Argument Result : Type} {step : Argument → Except EstimateError Result}
    {arguments : List Argument} {error : EstimateError} (nonempty : arguments ≠ [])
    (each : ∀ argument ∈ arguments, step argument = .error error) :
    collect step arguments = .error error := by
  cases arguments with
  | nil => contradiction
  | cons argument rest =>
      unfold collect
      rw [each argument List.mem_cons_self]
      rfl

section Law

variable {template : String} {cuts : List Cut} {stock : Stock}

/-- A finite total has only finite parts. -/
theorem exists_finite_of_total {areas : List (Option Binary64)} {sum : Finite}
    (isSum : total areas = .finite sum) :
    ∀ area, some area ∈ areas → ∃ value, area = .finite value := by
  rw [total_eq_foldl] at isSum
  intro area isArea
  exact (exists_finite_of_foldl_add isSum).2 area (List.reduceOption_mem_iff.mpr isArea)

/-- A finite sum finishes the cut list. -/
theorem ofCuts_of_finite (takes : ∀ sheet ∈ stock.sheets, sheet.takesAll stock.waste = true)
    {sum : Finite} (isSum : total (cuts.map Cut.wideArea?) = .finite sum) :
    ∃ sheets, ofCuts template cuts stock =
      .ok ⟨template, cuts, cuts.map Cut.wideArea?, .finite sum, sheets⟩ := by
  have countable : cuts.any Cut.isUncountable = false := by
    rw [List.any_eq_false]
    intro cut isCut uncountable
    obtain ⟨area, isArea⟩ : ∃ area, cut.wideArea? = some area := by
      unfold Cut.isUncountable at uncountable
      rw [Bool.and_eq_true] at uncountable
      exact Option.isSome_iff_exists.mp uncountable.1
    have isMember : some area ∈ cuts.map Cut.wideArea? := List.mem_map.mpr ⟨cut, isCut, isArea⟩
    obtain ⟨value, isFinite⟩ := exists_finite_of_total isSum area isMember
    rw [isFinite] at isArea
    rw [Cut.isUncountable_of_finite isArea] at uncountable
    contradiction
  have counts : ∃ sheets, collect (fun sheet =>
      (sheet.count (.real (.finite sum)) stock.waste).map (sheet.name, ·)) stock.sheets =
        .ok sheets := by
    apply exists_collect
    intro sheet isSheet
    obtain ⟨count, isCount⟩ := Sheet.exists_count (takes sheet isSheet) sum
    rw [isCount]
    exact ⟨(sheet.name, count), rfl⟩
  obtain ⟨sheets, areSheets⟩ := counts
  unfold ofCuts
  rw [collect_area, countable, if_neg Bool.false_ne_true]
  simp only [Except.ok_bind, isSum, areSheets]
  exact ⟨sheets, rfl⟩

/-- A sum without a count stops the cut list, unless a quantity does before. -/
theorem ofCuts_of_error (nonempty : stock.sheets ≠ []) {error : EstimateError}
    (each : ∀ sheet ∈ stock.sheets,
      sheet.count (.real (total (cuts.map Cut.wideArea?))) stock.waste = .error error) :
    ofCuts template cuts stock =
      .error (if cuts.any Cut.isUncountable then .largeQuantity else error) := by
  have stopped : collect (fun sheet =>
      (sheet.count (.real (total (cuts.map Cut.wideArea?))) stock.waste).map (sheet.name, ·))
        stock.sheets = .error error := by
    apply collect_of_error nonempty
    intro sheet isSheet
    rw [each sheet isSheet]
    rfl
  unfold ofCuts
  rw [collect_area]
  cases cuts.any Cut.isUncountable with
  | true => rfl
  | false =>
      rw [if_neg Bool.false_ne_true, if_neg Bool.false_ne_true]
      simp only [Except.ok_bind, stopped, Except.error_bind]

end Law

/-- With the standard stock the left sum of the areas decides. A finite sum gives a cut list in
which all areas are finite, and any other sum gives an error, whatever the other rows are. -/
theorem ofTemplate_standard (template : Template) (bindings : Bindings) :
    let cuts := template.panels.map fun panel => panel.cutAlone bindings
    let areas := cuts.map Cut.wideArea?
    List.Forall₂ (fun panel cut => Cut.Reports cut panel bindings) template.panels cuts ∧
    List.Forall₂ Cut.Measures cuts areas ∧
    match total areas with
    | .finite sum =>
      (∀ area, some area ∈ areas → ∃ value, area = .finite value) ∧
      ∃ sheets, ofTemplate template bindings .standard =
        .ok ⟨template.name, cuts, areas, .finite sum, sheets⟩
    | .infinite _ => ofTemplate template bindings .standard =
        .error (if cuts.any Cut.isUncountable then .largeQuantity else .unbounded)
    | .notNumber => ofTemplate template bindings .standard =
        .error (if cuts.any Cut.isUncountable then .largeQuantity else .notNumber) := by
  intro cuts areas
  have takes := Stock.standard_takesAll
  have nonempty : Stock.standard.sheets ≠ [] := List.cons_ne_nil _ _
  refine ⟨?_, ?_, ?_⟩
  · rw [List.forall₂_map_right_iff, List.forall₂_same]
    exact fun panel _ => Cut.reports_cutAlone panel bindings
  · rw [List.forall₂_map_right_iff, List.forall₂_same]
    exact fun cut _ => cut.measures_wideArea
  · rw [ofTemplate_eq_ofCuts]
    cases isTotal : total areas with
    | finite sum => exact ⟨exists_finite_of_total isTotal, ofCuts_of_finite takes isTotal⟩
    | infinite negative =>
        apply ofCuts_of_error nonempty
        intro sheet isSheet
        show sheet.count (.real (total areas)) _ = _
        rw [isTotal]
        exact Sheet.count_infinite (takes sheet isSheet) negative
    | notNumber =>
        apply ofCuts_of_error nonempty
        intro sheet isSheet
        show sheet.count (.real (total areas)) _ = _
        rw [isTotal]
        exact Sheet.count_notNumber (takes sheet isSheet)

/-- Two finite sides with an infinite product stop the whole cut list. -/
theorem exists_ofTemplate_unbounded :
    let large : Finite := ⟨false, Nat.pow 2 1674, by decide +kernel⟩
    let bindings : Bindings :=
      ⟨⟨[("width", .number large), ("height", .number large)], by decide⟩, by decide +kernel⟩
    let good := Part.panel ⟨"1000", "500"⟩ { text := "Good" } 1 [] none
    let huge := Part.panel ⟨"width", "height"⟩ { text := "Huge" } 1 [] none
    let template : Template := ⟨"t", [good, huge], by decide +kernel⟩
    (huge.cutAlone bindings).dimensions = [("width", large), ("height", large)] ∧
      (huge.cutAlone bindings).errors = [] ∧
      ofTemplate template bindings .standard = .error .unbounded := by
  intro large bindings good huge template
  have stops : (match ofTemplate template bindings .standard with
      | .error error => some error
      | .ok _ => none) = some .unbounded := by decide +kernel
  refine ⟨by decide +kernel, by decide +kernel, ?_⟩
  cases result : ofTemplate template bindings .standard with
  | ok list =>
      rw [result] at stops
      contradiction
  | error error =>
      rw [result] at stops
      exact congrArg Except.error (Option.some.inj stops)

end CutList

end Casework
