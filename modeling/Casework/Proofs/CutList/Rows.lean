/-
This file proves that every row of a cut list reports its own panel. The outcomes travel under
qualified names, and a row gets back exactly what its formulas give when each is evaluated alone.
-/

import Casework.Proofs.Template.Outcomes

namespace Casework

open Binary64

/-- An outcome that is a number stays with its property. -/
def valueOf? (entry : String × Outcome) : Option (String × Finite) :=
  match entry.2 with
  | .ok value => some (entry.1, value)
  | .error _ => none

/-- An outcome that is a problem stays with its property. -/
def problemOf? (entry : String × Outcome) : Option (String × Problem) :=
  match entry.2 with
  | .ok _ => none
  | .error problem => some (entry.1, problem)

theorem valueOf_eq_some_iff {entry : String × Outcome} {property : String} {value : Finite} :
    valueOf? entry = some (property, value) ↔ entry = (property, .ok value) := by
  obtain ⟨name, outcome⟩ := entry
  cases outcome <;> simp [valueOf?]

theorem problemOf_eq_some_iff {entry : String × Outcome} {property : String} {problem : Problem} :
    problemOf? entry = some (property, problem) ↔ entry = (property, .error problem) := by
  obtain ⟨name, outcome⟩ := entry
  cases outcome <;> simp [problemOf?]

namespace Panel

/-- Every formula of a panel is evaluated alone, in the order of the properties. -/
def outcomesAlone (panel : Panel) (bindings : Bindings) : List (String × Outcome) :=
  panel.formulas.entries.map fun entry => (entry.1, Formula.outcomeAlone bindings entry.2)

/-- A panel is cut without the other panels of its template. -/
def cutAlone (panel : Panel) (bindings : Bindings) : Cut where
  name := panel.name.text
  quantity := panel.quantity
  thickness := panel.thicknessUnder bindings
  dimensions := (panel.outcomesAlone bindings).filterMap valueOf?
  errors := (panel.outcomesAlone bindings).filterMap problemOf?

/-- A row has the properties of its panel in their order. -/
@[simp]
theorem map_fst_outcomesAlone (panel : Panel) (bindings : Bindings) :
    (panel.outcomesAlone bindings).map Prod.fst = panel.formulas.keys := by
  rw [outcomesAlone, List.map_map]
  rfl

/-- Every formula of a panel has its own outcome in the row. -/
theorem mem_outcomesAlone {panel : Panel} {property source : String}
    (isFormula : (property, source) ∈ panel.formulas.entries) (bindings : Bindings) :
    (property, Formula.outcomeAlone bindings source) ∈ panel.outcomesAlone bindings :=
  List.mem_map.mpr ⟨(property, source), isFormula, rfl⟩

/-- A property has one outcome. -/
theorem eq_of_mem_outcomesAlone {panel : Panel} {bindings : Bindings} {property : String}
    {first second : Outcome} (isFirst : (property, first) ∈ panel.outcomesAlone bindings)
    (isSecond : (property, second) ∈ panel.outcomesAlone bindings) : first = second := by
  have distinct : ((panel.outcomesAlone bindings).map Prod.fst).Nodup := by
    rw [map_fst_outcomesAlone]
    exact panel.formulas.distinct
  have found := List.lookup_of_mem distinct isFirst
  rw [List.lookup_of_mem distinct isSecond] at found
  exact (Option.some.inj found).symm

end Panel

namespace Template

/-- Under a qualified name of the template stands the outcome of that formula alone. -/
theorem get_outcomes {template : Template} {panel : Panel} (isPanel : panel ∈ template.panels)
    {property source : String} (isFormula : (property, source) ∈ panel.formulas.entries)
    (bindings : Bindings) :
    (template.outcomes bindings).get? (qualifiedName panel.name.text property) =
      some (Formula.outcomeAlone bindings source) := by
  have isSource : (qualifiedName panel.name.text property, source) ∈ template.sources :=
    mem_sources_iff.mpr ⟨panel, isPanel, property, isFormula, rfl⟩
  rw [get_outcomes_of_mem isSource, Formula.outcome_read]

/-- No other panel has an influence on the row of a panel. -/
theorem cut_outcomes {template : Template} {panel : Panel} (isPanel : panel ∈ template.panels)
    (bindings : Bindings) :
    panel.cut (template.outcomes bindings) bindings = panel.cutAlone bindings := by
  have results : (panel.formulas.keys.filterMap fun property =>
      ((template.outcomes bindings).get? (qualifiedName panel.name.text property)).map
        fun outcome => (property, outcome)) = panel.outcomesAlone bindings := by
    unfold OrderedMap.keys Panel.outcomesAlone
    rw [List.filterMap_map, ← List.filterMap_eq_map']
    apply List.filterMap_congr
    intro entry isFormula
    show Option.map _ _ = _
    rw [get_outcomes isPanel isFormula]
    rfl
  unfold Panel.cut
  dsimp only
  rw [results]
  rfl

/-- These are the rows of a template. -/
theorem map_cut_outcomes (template : Template) (bindings : Bindings) :
    (template.panels.map fun panel => panel.cut (template.outcomes bindings) bindings) =
      template.panels.map fun panel => panel.cutAlone bindings :=
  List.map_congr_left fun _ isPanel => cut_outcomes isPanel bindings

end Template

namespace Cut

/-- A row reports a panel when every formula of the panel is among the dimensions or among the
errors, and not among both, with the outcome that it has alone, in the order of the panel. -/
structure Reports (cut : Cut) (panel : Panel) (bindings : Bindings) : Prop where
  sameName : cut.name = panel.name.text
  sameQuantity : cut.quantity = panel.quantity
  sameThickness : cut.thickness = panel.thicknessUnder bindings
  dimension : ∀ property source value, (property, source) ∈ panel.formulas.entries →
    Formula.outcomeAlone bindings source = .ok value →
      (property, value) ∈ cut.dimensions ∧ property ∉ cut.errors.map Prod.fst
  error : ∀ property source problem, (property, source) ∈ panel.formulas.entries →
    Formula.outcomeAlone bindings source = .error problem →
      (property, problem) ∈ cut.errors ∧ property ∉ cut.dimensions.map Prod.fst
  dimensionsOrdered : (cut.dimensions.map Prod.fst).Sublist panel.formulas.keys
  errorsOrdered : (cut.errors.map Prod.fst).Sublist panel.formulas.keys

/-- A panel that is cut alone is reported. -/
theorem reports_cutAlone (panel : Panel) (bindings : Bindings) :
    (panel.cutAlone bindings).Reports panel bindings where
  sameName := rfl
  sameQuantity := rfl
  sameThickness := rfl
  dimension := by
    intro property source value isFormula hasValue
    have isOutcome := panel.mem_outcomesAlone isFormula bindings
    rw [hasValue] at isOutcome
    constructor
    · exact List.mem_filterMap.mpr ⟨_, isOutcome, rfl⟩
    · intro isError
      obtain ⟨⟨_, problem⟩, isEntry, rfl⟩ := List.mem_map.mp isError
      obtain ⟨entry, isOther, isProblem⟩ := List.mem_filterMap.mp isEntry
      rw [problemOf_eq_some_iff.mp isProblem] at isOther
      exact nomatch Panel.eq_of_mem_outcomesAlone isOutcome isOther
  error := by
    intro property source problem isFormula hasProblem
    have isOutcome := panel.mem_outcomesAlone isFormula bindings
    rw [hasProblem] at isOutcome
    constructor
    · exact List.mem_filterMap.mpr ⟨_, isOutcome, rfl⟩
    · intro isDimension
      obtain ⟨⟨_, value⟩, isEntry, rfl⟩ := List.mem_map.mp isDimension
      obtain ⟨entry, isOther, isValue⟩ := List.mem_filterMap.mp isEntry
      rw [valueOf_eq_some_iff.mp isValue] at isOther
      exact nomatch Panel.eq_of_mem_outcomesAlone isOutcome isOther
  dimensionsOrdered := by
    rw [← panel.map_fst_outcomesAlone bindings]
    apply OrderedMap.sublist_filterMap
    intro entry result found
    exact (congrArg Prod.fst (valueOf_eq_some_iff.mp found)).symm
  errorsOrdered := by
    rw [← panel.map_fst_outcomesAlone bindings]
    apply OrderedMap.sublist_filterMap
    intro entry result found
    exact (congrArg Prod.fst (problemOf_eq_some_iff.mp found)).symm

end Cut

end Casework
