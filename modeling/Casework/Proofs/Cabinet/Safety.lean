import Casework.Cabinet.Template
import Casework.Proofs.Cabinet.Parameters
import Casework.Proofs.Formula.Divisors
import Casework.Proofs.Template.Outcomes

namespace Casework

open Binary64

/-- A text is sound when it is a formula with a sound tree. -/
def Formula.isSound (nonzero : List String) (source : String) : Bool :=
  match Expression.parse source with
  | .ok tree => tree.Sound Cabinet.boundNames nonzero
  | .error _ => false

theorem Formula.exists_tree_of_isSound {nonzero : List String} {source : String}
    (isSound : isSound nonzero source = true) :
    ∃ tree, Expression.parse source = .ok tree ∧ tree.Sound Cabinet.boundNames nonzero := by
  unfold Formula.isSound at isSound
  split at isSound
  · rename_i tree isTree
    exact ⟨tree, isTree, of_decide_eq_true isSound⟩
  · contradiction

/-- A part is sound when both of its texts are. -/
def Part.isSound (part : Part) (nonzero : List String) : Bool :=
  Formula.isSound nonzero part.width && Formula.isSound nonzero part.height

/-- The panels of a template are accepted as they are. -/
theorem Template.distinctPanels_panels (template : Template) :
    distinctPanels template.panels = .ok ⟨template.panels, template.distinct⟩ := by
  have noRepeat : firstRepeated? [] (template.panels.map fun panel => panel.name.text) = none :=
    (firstRepeated_eq_none_iff [] _).mpr ⟨template.distinct, by simp⟩
  unfold distinctPanels
  split
  · rename_i again repeated
    rw [noRepeat] at repeated
    contradiction
  · rfl

namespace Cabinet

/-- A chosen panel has the texts of a sound part, and what it divides by are counts above zero. -/
theorem exists_part_of_mem_choices {cabinet : Cabinet} {choice : Choice}
    (isChoice : choice ∈ cabinet.choices) (isChosen : choice.isChosen = true) :
    ∃ (part : Part) (divisors : List String), choice.panel.formulas = part.formulas ∧
      part.isSound divisors = true ∧ ∀ name ∈ divisors, cabinet.IsPositiveCount name := by
  have doors (positive : 0 < cabinet.doorCount) :
      ∀ name ∈ ["doorCount"], cabinet.IsPositiveCount name := by
    rw [List.forall_mem_singleton]
    exact ⟨cabinet.doorCount, by simp [parameters], positive⟩
  have drawers (positive : 0 < cabinet.drawerCount) :
      ∀ name ∈ ["drawerCount"], cabinet.IsPositiveCount name := by
    rw [List.forall_mem_singleton]
    exact ⟨cabinet.drawerCount, by simp [parameters], positive⟩
  have nothing : ∀ name ∈ ([] : List String), cabinet.IsPositiveCount name := List.forall_mem_nil _
  simp only [choices, List.mem_cons, List.not_mem_nil, or_false] at isChoice
  rcases isChoice with rfl | rfl | rfl | rfl | rfl | rfl | rfl | rfl | rfl | rfl | rfl | rfl
  -- the seven panels of the carcass divide by nothing
  iterate 7 exact ⟨_, [], rfl, by decide +kernel, nothing⟩
  -- the four panels of the drawers are there for at least one drawer
  iterate 4 exact ⟨_, _, rfl, by decide +kernel, drawers (of_decide_eq_true isChosen).2⟩
  by_cases isCorner : cabinet.family = .corner
  · rw [if_pos isCorner]
    exact ⟨_, [], rfl, by decide +kernel, nothing⟩
  · rw [if_neg isCorner]
    exact ⟨_, _, rfl, by decide +kernel, doors (of_decide_eq_true isChosen).2⟩

/-- Every text of a standard template has a sound tree. -/
theorem exists_tree_of_mem_sources {cabinet : Cabinet} {pair : String × String}
    (isSource : pair ∈ cabinet.template.sources) :
    ∃ (tree : Expression) (divisors : List String), Expression.parse pair.2 = .ok tree ∧
      tree.Sound boundNames divisors ∧ ∀ name ∈ divisors, cabinet.IsPositiveCount name := by
  obtain ⟨panel, isPanel, property, isEntry, -⟩ := Template.mem_sources_iff.mp isSource
  obtain ⟨choice, isIncluded, rfl⟩ := List.mem_map.mp isPanel
  obtain ⟨isChoice, isChosen⟩ := List.mem_filter.mp isIncluded
  obtain ⟨part, divisors, sameTexts, isSound, positive⟩ :=
    exists_part_of_mem_choices isChoice isChosen
  rw [sameTexts] at isEntry
  have isEither : property = "width" ∧ pair.2 = part.width ∨
      property = "height" ∧ pair.2 = part.height := by
    simpa [Part.formulas] using isEntry
  obtain ⟨widthSound, heightSound⟩ := Bool.and_eq_true_iff.mp isSound
  have isSound : Formula.isSound divisors pair.2 = true := by
    rcases isEither with ⟨-, isWidth⟩ | ⟨-, isHeight⟩
    · rwa [isWidth]
    · rwa [isHeight]
  obtain ⟨tree, isTree, sound⟩ := Formula.exists_tree_of_isSound isSound
  exact ⟨tree, divisors, isTree, sound, positive⟩

/-- The standard template of a cabinet is accepted, its texts are formulas without problems, and
once the cabinet binds its parameters each of them gives a number or is out of range. -/
theorem template_safe (cabinet : Cabinet) :
    Template.distinctPanels cabinet.template.panels =
        .ok ⟨cabinet.template.panels, cabinet.template.distinct⟩ ∧
      (∀ panel ∈ cabinet.template.panels, PanelName.ofText panel.name.text = .ok panel.name) ∧
      (∀ pair ∈ cabinet.template.sources, ∃ tree, Expression.parse pair.2 = .ok tree ∧
        tree.problems Parameter.kind? = []) ∧
      ∀ bindings, cabinet.bindings = .ok bindings →
        ∀ entry ∈ (cabinet.template.outcomes bindings).entries,
          (∃ value, entry.2 = .ok value) ∨
            ∃ operator : Operator, entry.2 = .error (Failure.outOfRange operator).problem := by
  refine ⟨cabinet.template.distinctPanels_panels, fun panel _ => panel.name.ofText_text, ?_, ?_⟩
  · intro pair isSource
    obtain ⟨tree, divisors, isTree, sound, _⟩ := exists_tree_of_mem_sources isSource
    exact ⟨tree, isTree, sound.problems_eq_nil⟩
  · intro bindings isOk entry isEntry
    rw [Template.entries_outcomes, Template.readings, List.map_map] at isEntry
    obtain ⟨pair, isSource, rfl⟩ := List.mem_map.mp isEntry
    obtain ⟨tree, divisors, isTree, sound, positive⟩ := exists_tree_of_mem_sources isSource
    have outcome : (Formula.read pair.2 (some pair.1)).outcome bindings =
        (tree.evaluateNumber bindings.get?).mapError Failure.problem := by
      unfold Formula.read
      rw [isTree]
      rfl
    have areBound : ∀ name ∈ boundNames, ∃ value, bindings.get? name = some value :=
      fun name isBound => exists_value_of_mem_boundNames isOk isBound
    have areNonzero : ∀ name ∈ divisors, ∀ value,
        bindings.get? name = some value → value.asNumber.isZero = false := by
      intro name isDivisor
      exact (positive name isDivisor).nonzero isOk
    show (∃ value, (Formula.read pair.2 (some pair.1)).outcome bindings = .ok value) ∨
      ∃ operator : Operator, (Formula.read pair.2 (some pair.1)).outcome bindings =
        .error (Failure.outOfRange operator).problem
    rw [outcome]
    rcases sound.evaluateNumber areBound areNonzero with ⟨value, hasValue⟩ | ⟨operator, fails⟩
    · rw [hasValue]
      exact .inl ⟨value, rfl⟩
    · rw [fails]
      exact .inr ⟨operator, rfl⟩

/-- The standard drawer unit binds its parameters and has outcomes for all its texts. -/
theorem template_safe_drawers :
    let side (millimetres : Nat) (onGrid : OnGrid (millimetres * unitsPerOne)) : Measure :=
      ⟨⟨false, millimetres * unitsPerOne, onGrid⟩, Int.natCast_nonneg _⟩
    let dimensions : Dimensions :=
      ⟨side 600 (by decide +kernel), side 720 (by decide +kernel), side 560 (by decide +kernel)⟩
    let cabinet : Cabinet :=
      ⟨"unit", .drawer, dimensions, .standard, .standard, 0, 3, 0, none⟩
    ∃ bindings, cabinet.bindings = .ok bindings ∧
      (cabinet.template.outcomes bindings).size = 16 ∧
      ∀ entry ∈ (cabinet.template.outcomes bindings).entries,
        (∃ value, entry.2 = .ok value) ∨
          ∃ operator : Operator, entry.2 = .error (Failure.outOfRange operator).problem := by
  intro side dimensions cabinet
  have binds : cabinet.bindings.toOption.any
      (fun bindings => (cabinet.template.outcomes bindings).size = 16) = true := by
    decide +kernel
  obtain ⟨bindings, isOk, counted⟩ := Except.any_toOption_iff.mp binds
  exact ⟨bindings, isOk, of_decide_eq_true counted, (template_safe cabinet).2.2.2 bindings isOk⟩

end Cabinet

end Casework
