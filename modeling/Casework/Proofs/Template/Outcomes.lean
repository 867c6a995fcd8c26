import Casework.Bindings.Form
import Casework.Proofs.Batch.Sweep
import Casework.Proofs.Cache.History
import Casework.ToMathlib.Except

namespace Casework

/-- The names of a cache are distinct, so each of its entries has its own outcome. -/
theorem Cache.outcomes_eq_mapEntries (cache : Cache) (bindings : Bindings) :
    cache.outcomes bindings = cache.table.mapEntries fun _ entry => entry.outcome bindings :=
  Batch.finish_eq_mapEntries cache.table bindings

/-- A formula text is read and evaluated without any other. -/
def Formula.outcomeAlone (bindings : Bindings) (source : String) : Outcome :=
  match Expression.parse source with
  | .error error => .error error.problem
  | .ok tree => (tree.evaluateNumber bindings.get?).mapError Failure.problem

theorem Formula.outcome_read (bindings : Bindings) (source : String) (name : Option String) :
    (read source name).outcome bindings = outcomeAlone bindings source := by
  unfold read outcomeAlone
  cases Expression.parse source <;> rfl

/-- Only a batch reports duplicates. -/
theorem Formula.Entry.outcome_ne_duplicateName (entry : Formula.Entry) (bindings : Bindings)
    (name : String) : entry.outcome bindings ≠ .error (.duplicateName name) := by
  cases entry with
  | error error => simp [outcome, SyntaxError.problem]
  | ok formula =>
      unfold outcome
      dsimp only
      cases formula.evaluate bindings.get? with
      | ok value => simp [Except.mapError]
      | error failure => cases failure <;> simp [Except.mapError, Failure.problem]

namespace Template

/-- These are the readings of the formula texts under their qualified names. -/
def readings (template : Template) : List (String × Formula.Entry) :=
  template.sources.map fun pair => (pair.1, Formula.read pair.2 (some pair.1))

/-- The cache of a template holds its readings. -/
theorem entries_ofTemplate (template : Template) :
    (Cache.ofTemplate template).table.entries = template.readings := by
  have inStep : (Cache.ofTemplate template).InStep := Cache.inStep_empty.align template
  have texts : (Cache.ofTemplate template).sources.entries = template.sources :=
    Cache.entries_align Cache.empty template
  rw [inStep, readings, ← texts]
  rfl

/-- Every reading of a template has its outcome, in the order of the texts. -/
theorem entries_outcomes (template : Template) (bindings : Bindings) :
    (template.outcomes bindings).entries =
      template.readings.map fun pair => (pair.1, pair.2.outcome bindings) := by
  rw [outcomes, Cache.outcomes_eq_mapEntries, ← entries_ofTemplate]
  rfl

/-- The outcome of a text is found under its name. -/
theorem get_outcomes_of_mem {template : Template} {pair : String × String}
    (isSource : pair ∈ template.sources) (bindings : Bindings) :
    (template.outcomes bindings).get? pair.1 =
      some ((Formula.read pair.2 (some pair.1)).outcome bindings) := by
  rw [OrderedMap.get_eq_some_iff, entries_outcomes, readings, List.map_map]
  exact List.mem_map_of_mem isSource

/-- A qualified name belongs to one panel of the template and to one attribute. -/
theorem eq_of_qualifiedName_eq {template : Template} {first second : Panel}
    (isFirst : first ∈ template.panels) (isSecond : second ∈ template.panels)
    {firstProperty secondProperty : String}
    (equal : qualifiedName first.name.text firstProperty =
      qualifiedName second.name.text secondProperty) :
    first = second ∧ firstProperty = secondProperty := by
  obtain ⟨sameName, sameProperty⟩ := qualifiedName_inj.mp equal
  exact ⟨List.inj_on_of_nodup_map template.distinct isFirst isSecond sameName, sameProperty⟩

/-- Texts without errors have formulas, and these stand under the names of their texts. -/
theorem exists_formulas {sources : List (String × String)}
    (accepted : ∀ pair ∈ sources, ∃ tree, Expression.parse pair.2 = .ok tree) :
    ∃ formulas : List Formula,
      (sources.map fun pair => Formula.read pair.2 (some pair.1)) = formulas.map .ok ∧
        formulas.map Batch.named =
          sources.map fun pair => (pair.1, Formula.read pair.2 (some pair.1)) := by
  induction sources with
  | nil => exact ⟨[], rfl, rfl⟩
  | cons pair rest inductionHypothesis =>
      obtain ⟨tree, isTree⟩ := accepted pair (by simp)
      obtain ⟨formulas, areReadings, areNamed⟩ :=
        inductionHypothesis fun other isMember => accepted other (by simp [isMember])
      have isReading : Formula.read pair.2 (some pair.1) = .ok ⟨pair.1, pair.2, tree⟩ := by
        rw [Formula.read, isTree]
        rfl
      refine ⟨⟨pair.1, pair.2, tree⟩ :: formulas, ?_, ?_⟩
      · rw [List.map_cons, List.map_cons, isReading, areReadings]
      · rw [List.map_cons, List.map_cons, isReading, areNamed]
        rfl

/-- The texts of a template are the formulas of its panels under qualified names. The qualified
names are distinct, and each determines its panel and its attribute. Every one of them has, in the
order of the texts, the error of its text or the outcome of the formula of its text alone, which is
never the report of a duplicate. A cache of the template has the same outcomes, and so has the list
of its formulas when every text is a formula. -/
theorem outcomes_exact (template : Template) (bindings : Bindings) :
    (∀ name source, (name, source) ∈ template.sources ↔
      ∃ panel ∈ template.panels, ∃ property, (property, source) ∈ panel.formulas.entries ∧
        qualifiedName panel.name.text property = name) ∧
    (template.sources.map Prod.fst).Nodup ∧
    (∀ first ∈ template.panels, ∀ second ∈ template.panels,
      ∀ firstProperty secondProperty : String,
        qualifiedName first.name.text firstProperty =
            qualifiedName second.name.text secondProperty →
          first = second ∧ firstProperty = secondProperty) ∧
    (template.outcomes bindings).entries =
      template.sources.map (fun pair => (pair.1,
        match Formula.read pair.2 (some pair.1) with
        | .error error => .error error.problem
        | .ok formula => (formula.evaluate bindings.get?).mapError Failure.problem)) ∧
    (∀ name again, (name, .error (.duplicateName again)) ∉
      (template.outcomes bindings).entries) ∧
    (Cache.ofTemplate template).outcomes bindings = template.outcomes bindings ∧
    ((∀ pair ∈ template.sources, ∃ tree, Expression.parse pair.2 = .ok tree) →
      ∃ formulas : List Formula,
        (template.sources.map fun pair => Formula.read pair.2 (some pair.1)) =
          formulas.map .ok ∧
        Batch.outcomes formulas bindings = template.outcomes bindings) := by
  have entries := template.entries_outcomes bindings
  refine ⟨fun name source => mem_sources_iff, template.nodup_sources,
    fun first isFirst second isSecond firstProperty secondProperty =>
      eq_of_qualifiedName_eq isFirst isSecond, ?_, fun name again isEntry => ?_, rfl,
    fun accepted => ?_⟩
  · rw [entries, readings, List.map_map]
    rfl
  · rw [entries] at isEntry
    obtain ⟨pair, _, equal⟩ := List.mem_map.mp isEntry
    exact pair.2.outcome_ne_duplicateName bindings again (Prod.mk.inj equal).2
  · obtain ⟨formulas, areReadings, areNamed⟩ := exists_formulas accepted
    refine ⟨formulas, areReadings, ?_⟩
    rw [outcomes, Cache.outcomes, entries_ofTemplate, Batch.outcomes, areNamed]
    rfl

/-- Both texts of a flap are formulas, and the list of them has the outcomes of the template, also
where one of them divides by zero. -/
theorem outcomes_exact_flap :
    let flap : Panel := ⟨⟨"Flap", by decide +kernel, by decide +kernel⟩,
      ⟨[("width", "width / doorCount - 6"), ("height", "height - 6")], by simp⟩, 2, [], none⟩
    let template : Template := ⟨"unit", [flap], by simp⟩
    ∃ (bindings : Bindings) (formulas : List Formula),
      Bindings.ofPairs [("width", .integer 600), ("doorCount", .integer 0)] = .ok bindings ∧
      (template.sources.map fun pair => Formula.read pair.2 (some pair.1)) = formulas.map .ok ∧
      Batch.outcomes formulas bindings = template.outcomes bindings ∧
      (template.outcomes bindings).get? "Flap.width" = some (.error .divisionByZero) := by
  intro flap template
  have divides :
      (Bindings.ofPairs [("width", .integer 600), ("doorCount", .integer 0)]).toOption.any
        (fun bindings => (template.outcomes bindings).get? "Flap.width" =
          some (.error .divisionByZero)) = true := by decide +kernel
  obtain ⟨bindings, isBound, isError⟩ := Except.any_toOption_iff.mp divides
  have parses : ∀ pair ∈ template.sources,
      (Expression.parse pair.2).toOption.isSome = true := by decide +kernel
  obtain ⟨formulas, areReadings, sameOutcomes⟩ := (outcomes_exact template bindings).2.2.2.2.2.2
    fun pair isSource => Except.isSome_toOption_iff.mp (parses pair isSource)
  exact ⟨bindings, formulas, isBound, areReadings, sameOutcomes, of_decide_eq_true isError⟩

end Template

end Casework
