import Casework.Part
import Casework.Proofs.Bindings.Editing
import Casework.Proofs.Template.Outcomes

namespace Casework

variable {first second : Bindings}

/-- Every name that a branch or a condition reads is mentioned by the tree, also when only one of
the two sides reaches it. -/
theorem Expression.evaluate_congr {tree : Expression} {first second : String → Option Value}
    (agree : ∀ name ∈ tree.mentions, first name = second name) :
    tree.evaluate first = tree.evaluate second := by
  induction tree with
  | number value => rfl
  | parameter name =>
      unfold evaluate
      rw [agree name (List.mem_singleton_self name)]
  | negate operand inductionHypothesis =>
      unfold evaluate
      rw [inductionHypothesis agree]
  | binary operator left right leftHypothesis rightHypothesis =>
      obtain ⟨onLeft, onRight⟩ := List.forall_mem_append.mp agree
      unfold evaluate
      rw [leftHypothesis onLeft, rightHypothesis onRight]
  | conditional condition thenBranch elseBranch forCondition forThen forElse =>
      obtain ⟨onCondition, onBranches⟩ := List.forall_mem_append.mp agree
      obtain ⟨onThen, onElse⟩ := List.forall_mem_append.mp onBranches
      unfold evaluate
      rw [forCondition onCondition, forThen onThen, forElse onElse]

/-- A formula text has the same outcome when its tree finds the same parameters. -/
theorem Formula.Entry.outcome_congr {source name : String}
    (agree : ∀ tree, Expression.parse source = .ok tree →
      ∀ parameter ∈ tree.names, first.get? parameter = second.get? parameter) :
    (Formula.read source (some name)).outcome first =
      (Formula.read source (some name)).outcome second := by
  unfold Formula.read
  cases isTree : Expression.parse source with
  | error error => rfl
  | ok tree =>
      have same : tree.evaluate first.get? = tree.evaluate second.get? :=
        Expression.evaluate_congr fun parameter isMentioned =>
          agree tree isTree parameter ((tree.mem_names_iff parameter).mpr isMentioned)
      show (tree.evaluateNumber first.get?).mapError Failure.problem =
        (tree.evaluateNumber second.get?).mapError Failure.problem
      rw [Expression.evaluateNumber, Expression.evaluateNumber, same]

namespace Template

/-- A text whose names no edit touches has the same outcome before the edits and after them. Two
binding sets that agree on the names of a tree give it the same value or the same failure. -/
theorem outcomes_edited (template : Template) :
    (∀ (bindings after : Bindings) (edits : List Bindings.Edit),
      bindings.edited edits = .ok after →
        ∀ pair ∈ template.sources,
          (∀ tree, Expression.parse pair.2 = .ok tree →
            ∀ name ∈ tree.names, ∀ edit ∈ edits, name ∉ edit.names) →
          ∃ outcome, (template.outcomes bindings).get? pair.1 = some outcome ∧
            (template.outcomes after).get? pair.1 = some outcome) ∧
    ∀ (tree : Expression) (first second : Bindings),
      (∀ name ∈ tree.names, first.get? name = second.get? name) →
        tree.evaluate first.get? = tree.evaluate second.get? := by
  constructor
  · intro bindings after edits isOk pair isSource untouched
    refine ⟨_, get_outcomes_of_mem isSource bindings, ?_⟩
    rw [get_outcomes_of_mem isSource, Option.some.injEq]
    exact Formula.Entry.outcome_congr fun tree isTree name isName =>
      Bindings.get_edited_of_notMem isOk (untouched tree isTree name isName)
  · intro tree first second agree
    exact Expression.evaluate_congr fun name isMentioned =>
      agree name ((tree.mem_names_iff name).mpr isMentioned)

/-- The height of a panel stays under edits of other parameters, and so does its missing width. -/
theorem outcomes_edited_panel :
    let part : Part := ⟨"hasBack ? depth : width", "hasBack ? height : side"⟩
    let template : Template := ⟨"unit", [part.panel ⟨"Side", by decide +kernel, by decide +kernel⟩
      1 [] none], by simp⟩
    let edits : List Bindings.Edit :=
      [.update ⟨[("back", .integer 4)], by simp⟩, .without ["drawer"]]
    ∃ bindings after : Bindings,
      Bindings.ofPairs [("hasBack", .flag true), ("height", .integer 720), ("drawer", .integer 9)] =
        .ok bindings ∧
      bindings.edited edits = .ok after ∧
      (∃ outcome, (template.outcomes bindings).get? "Side.width" = some outcome ∧
        (template.outcomes after).get? "Side.width" = some outcome) ∧
      ∃ outcome, (template.outcomes bindings).get? "Side.height" = some outcome ∧
        (template.outcomes after).get? "Side.height" = some outcome := by
  intro part template edits
  have binds : (Bindings.ofPairs [("hasBack", .flag true), ("height", .integer 720),
      ("drawer", .integer 9)]).toOption.any
        (fun bindings => (bindings.edited edits).toOption.isSome) = true := by decide +kernel
  obtain ⟨bindings, isBound, edited⟩ := Except.any_toOption_iff.mp binds
  obtain ⟨after, isAfter⟩ := Except.isSome_toOption_iff.mp edited
  have untouched : ∀ pair ∈ template.sources, ∀ tree, Expression.parse pair.2 = .ok tree →
      ∀ name ∈ tree.names, ∀ edit ∈ edits, name ∉ edit.names := by
    have checked : ∀ pair ∈ template.sources, ∀ tree ∈ (Expression.parse pair.2).toOption,
        ∀ name ∈ tree.mentions, ∀ edit ∈ edits, name ∉ edit.names := by decide +kernel
    exact fun pair isSource tree isTree name isName =>
      checked pair isSource tree (Except.toOption_eq_some_iff.mpr isTree) name
        ((tree.mem_names_iff name).mp isName)
  have unchanged := (outcomes_edited template).1 bindings after edits isAfter
  exact ⟨bindings, after, isBound, isAfter,
    unchanged ("Side.width", part.width) (by decide +kernel) (untouched _ (by decide +kernel)),
    unchanged ("Side.height", part.height) (by decide +kernel) (untouched _ (by decide +kernel))⟩

end Template

end Casework
