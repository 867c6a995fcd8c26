import Casework.Bindings.Basic
import Casework.Proofs.Formula.Kinds

namespace Casework.Expression

variable {parameters : String → Option Value} {kinds : String → Option Kind}

/-- The mentioned parameters have values of the kinds that are given for them. -/
def Supplies (parameters : String → Option Value) (kinds : String → Option Kind)
    (tree : Expression) : Prop :=
  ∀ name ∈ tree.mentions, ∃ value, parameters name = some value ∧ kinds name = some value.kind

/-- Parameters of the given kinds respect them. -/
theorem Supplies.respects {tree : Expression} (supplies : tree.Supplies parameters kinds) :
    tree.Respects parameters kinds := by
  intro name isMentioned value kind hasValue hasKind
  obtain ⟨found, isFound, kindFound⟩ := supplies name isMentioned
  rw [isFound] at hasValue
  rw [kindFound] at hasKind
  cases hasValue
  exact Option.some.inj hasKind

/-- When all conditions are flags and no parameter is missing, only arithmetic fails. -/
theorem isArithmetic_of_evaluate {tree : Expression} (supplies : tree.Supplies parameters kinds)
    (areFlags : ∀ condition ∈ tree.conditions, condition.kind? kinds = some .boolean)
    {failure : Failure} (fails : tree.evaluate parameters = .error failure) :
    failure.IsArithmetic := by
  induction tree with
  | number literal => contradiction
  | parameter name =>
      obtain ⟨value, isFound, _⟩ := supplies name (List.mem_singleton_self name)
      rw [(evaluate_parameter_eq_error_iff.mp fails).1] at isFound
      contradiction
  | negate operand inductionHypothesis =>
      exact inductionHypothesis supplies areFlags (evaluate_negate_eq_error_iff.mp fails)
  | binary operator left right leftHypothesis rightHypothesis =>
      obtain ⟨ofLeft, ofRight⟩ := List.forall_mem_append.mp supplies
      obtain ⟨leftFlags, rightFlags⟩ := List.forall_mem_append.mp areFlags
      rcases evaluate_binary_eq_error_iff.mp fails with
        leftFails | ⟨_, _, rightFails⟩ | ⟨_, _, _, _, applied⟩
      · exact leftHypothesis ofLeft leftFlags leftFails
      · exact rightHypothesis ofRight rightFlags rightFails
      · exact Operator.isArithmetic_of_apply applied
  | conditional condition thenBranch elseBranch first second third =>
      obtain ⟨ofCondition, ofBranches⟩ := List.forall_mem_append.mp supplies
      obtain ⟨ofThen, ofElse⟩ := List.forall_mem_append.mp ofBranches
      obtain ⟨isFlag, innerFlags⟩ := List.forall_mem_cons.mp areFlags
      obtain ⟨conditionFlags, branchFlags⟩ := List.forall_mem_append.mp innerFlags
      obtain ⟨thenFlags, elseFlags⟩ := List.forall_mem_append.mp branchFlags
      rcases evaluate_conditional_eq_error_iff.mp fails with
        conditionFails | ⟨found, hasNumber, _⟩ | ⟨flag, _, branchFails⟩
      · exact first ofCondition conditionFlags conditionFails
      · have isBoolean := kind_of_evaluate (Supplies.respects ofCondition) hasNumber isFlag
        contradiction
      · cases flag with
        | true => exact second ofThen thenFlags branchFails
        | false => exact third ofElse elseFlags branchFails

/-- A known kind other than number is the kind of flags. -/
theorem eq_boolean_of_ne {kind : Option Kind} (isKnown : kind ≠ none)
    (noNumber : kind ≠ some .number) : kind = some .boolean := by
  match kind with
  | none => contradiction
  | some .number => contradiction
  | some .boolean => rfl

/-- A tree has no problems when all its names are known, no condition is a number and the result
is no flag. -/
theorem problems_eq_nil_iff {tree : Expression} :
    tree.problems kinds = [] ↔
      (∀ name ∈ tree.mentions, kinds name ≠ none) ∧
      (∀ condition ∈ tree.conditions, condition.kind? kinds ≠ some .number) ∧
      tree.kind? kinds ≠ some .boolean := by
  rw [problems_eq, List.append_eq_nil_iff, List.append_eq_nil_iff, List.map_eq_nil_iff,
    List.replicate_eq_nil_iff, ← length_numberConditions, List.length_eq_zero_iff, and_assoc]
  simp [unknownNames, List.filter_eq_nil_iff]

/-- Suppose that a tree has no problems, that it and all its conditions have kinds, and that every
mentioned parameter is bound to a value of its kind. Then the tree evaluates to a number, or it
fails for a zero divisor or for a result out of range. -/
theorem evaluateNumber_of_problems_eq_nil (tree : Expression) (kinds : String → Option Kind)
    (bindings : Bindings) (noProblems : tree.problems kinds = [])
    (hasKind : tree.kind? kinds ≠ none)
    (conditionsHaveKinds : ∀ condition thenBranch elseBranch,
      .conditional condition thenBranch elseBranch ∈ tree.subtrees → condition.kind? kinds ≠ none)
    (bound : ∀ name ∈ tree.names,
      ∃ value, bindings.get? name = some value ∧ kinds name = some value.kind) :
    (∃ result, tree.evaluateNumber bindings.get? = .ok result) ∨
      tree.evaluateNumber bindings.get? = .error .divisionByZero ∨
      ∃ operator, tree.evaluateNumber bindings.get? = .error (.outOfRange operator) := by
  obtain ⟨_, noNumbers, noFlag⟩ := problems_eq_nil_iff.mp noProblems
  have supplies : tree.Supplies bindings.get? kinds := fun name isMentioned =>
    bound name ((mem_names_iff tree name).mpr isMentioned)
  have areFlags : ∀ condition ∈ tree.conditions, condition.kind? kinds = some .boolean := by
    intro condition isCondition
    obtain ⟨thenBranch, elseBranch, isSubtree⟩ := mem_conditions_iff.mp isCondition
    exact eq_boolean_of_ne (conditionsHaveKinds condition thenBranch elseBranch isSubtree)
      (noNumbers condition isCondition)
  cases evaluated : tree.evaluateNumber bindings.get? with
  | ok result => exact .inl ⟨result, rfl⟩
  | error failure =>
      rcases evaluateNumber_eq_error_iff.mp evaluated with fails | ⟨flag, hasFlag, _⟩
      · rcases isArithmetic_of_evaluate supplies areFlags fails with rfl | ⟨operator, rfl⟩
        · exact .inr (.inl rfl)
        · exact .inr (.inr ⟨operator, rfl⟩)
      · obtain ⟨kind, inferred⟩ := Option.ne_none_iff_exists'.mp hasKind
        have same := kind_of_evaluate supplies.respects hasFlag inferred
        exact absurd (inferred.trans (congrArg some same.symm)) noFlag

/-- A flag selects between a quotient and a negated flag. -/
theorem evaluateNumber_choice :
    let tree : Expression := .conditional (.parameter "hasBack")
      (.binary .div (.parameter "width") (.parameter "side")) (.negate (.parameter "isCorner"))
    let bindings : Bindings :=
      ⟨⟨[("hasBack", .boolean true), ("width", .number Value.one), ("side", .number .zero),
        ("isCorner", .boolean false)], by decide⟩, by decide +kernel⟩
    tree.problems Parameter.kind? = [] ∧
      ((∃ result, tree.evaluateNumber bindings.get? = .ok result) ∨
        tree.evaluateNumber bindings.get? = .error .divisionByZero ∨
        ∃ operator, tree.evaluateNumber bindings.get? = .error (.outOfRange operator)) := by
  intro tree bindings
  have noProblems : tree.problems Parameter.kind? = [] :=
    problems_eq_nil_iff.mpr (by decide +kernel)
  refine ⟨noProblems, evaluateNumber_of_problems_eq_nil tree Parameter.kind? bindings noProblems
    (by decide +kernel) ?_ ?_⟩
  · intro condition thenBranch elseBranch isSubtree
    have isCondition := mem_conditions_iff.mpr ⟨thenBranch, elseBranch, isSubtree⟩
    rw [List.mem_singleton.mp isCondition]
    decide +kernel
  · intro name isMentioned
    have isKnown : name ∈ ["hasBack", "width", "side", "isCorner"] :=
      (mem_names_iff tree name).mp isMentioned
    have each : ∀ name ∈ ["hasBack", "width", "side", "isCorner"],
        (bindings.get? name).map Value.kind = Parameter.kind? name ∧
          (bindings.get? name).isSome = true := by
      decide +kernel
    obtain ⟨sameKind, isBound⟩ := each name isKnown
    obtain ⟨value, found⟩ := Option.isSome_iff_exists.mp isBound
    rw [found] at sameKind
    exact ⟨value, found, sameKind.symm⟩

end Casework.Expression
