import Casework.Bindings.Form
import Casework.Proofs.Formula.Evaluation

namespace Casework

/-- Every parameter of the smaller function has the same value in the larger one. -/
def Extends (larger smaller : String → Option Value) : Prop :=
  ∀ name value, smaller name = some value → larger name = some value

/-- A failure of arithmetic is no missing parameter. -/
theorem Failure.IsArithmetic.ne_undefinedParameter {failure : Failure}
    (isArithmetic : failure.IsArithmetic) (name : String) :
    failure ≠ .undefinedParameter name := by
  rcases isArithmetic with rfl | ⟨operator, rfl⟩ <;> exact Failure.noConfusion

namespace Expression

variable {larger smaller parameters : String → Option Value} {tree : Expression} {name : String}

/-- A missing parameter is mentioned by the tree, and it has no value. -/
theorem missing_of_evaluate (fails : tree.evaluate parameters = .error (.undefinedParameter name)) :
    name ∈ tree.mentions ∧ parameters name = none := by
  induction tree with
  | number literal => contradiction
  | parameter mentioned =>
      obtain ⟨isMissing, same⟩ := evaluate_parameter_eq_error_iff.mp fails
      cases same
      exact ⟨List.mem_singleton_self name, isMissing⟩
  | negate operand inductionHypothesis =>
      exact inductionHypothesis (evaluate_negate_eq_error_iff.mp fails)
  | binary operator left right leftHypothesis rightHypothesis =>
      rcases evaluate_binary_eq_error_iff.mp fails with
        leftFails | ⟨_, _, rightFails⟩ | ⟨_, _, _, _, applied⟩
      · exact (leftHypothesis leftFails).imp_left (List.mem_append_left _)
      · exact (rightHypothesis rightFails).imp_left (List.mem_append_right _)
      · exact absurd rfl ((Operator.isArithmetic_of_apply applied).ne_undefinedParameter name)
  | conditional condition thenBranch elseBranch forCondition forThen forElse =>
      rcases evaluate_conditional_eq_error_iff.mp fails with
        conditionFails | ⟨_, _, mismatch⟩ | ⟨flag, _, branchFails⟩
      · exact (forCondition conditionFails).imp_left (List.mem_append_left _)
      · contradiction
      · cases flag with
        | true =>
            exact (forThen branchFails).imp_left fun isThen =>
              List.mem_append_right _ (List.mem_append_left _ isThen)
        | false =>
            exact (forElse branchFails).imp_left fun isElse =>
              List.mem_append_right _ (List.mem_append_right _ isElse)

/-- The outcome stays, or it was a missing parameter that now has a value. -/
def Continues (larger : String → Option Value) {Result : Type}
    (before after : Except Failure Result) : Prop :=
  after = before ∨
    ∃ name value, before = .error (.undefinedParameter name) ∧ larger name = some value

/-- When the first part of an evaluation has the same outcome, so that the second part is the same
too, and each second part continues, then both parts together continue. -/
theorem Continues.bind {Argument Result : Type} {before after : Except Failure Argument}
    {next nextAfter : Argument → Except Failure Result} (first : Continues larger before after)
    (second : ∀ argument, Continues larger (next argument) (nextAfter argument)) :
    Continues larger (before >>= next) (after >>= nextAfter) := by
  rcases first with rfl | ⟨name, value, rfl, isLarger⟩
  · cases after with
    | error failure => exact .inl rfl
    | ok argument => exact second argument
  · exact .inr ⟨name, value, rfl, isLarger⟩

/-- Under a larger function every evaluation continues. -/
theorem continues_evaluate (extended : Extends larger smaller) (tree : Expression) :
    Continues larger (tree.evaluate smaller) (tree.evaluate larger) := by
  induction tree with
  | number literal => exact .inl rfl
  | parameter name =>
      cases isSmaller : smaller name with
      | some value =>
          refine .inl ?_
          rw [evaluate, evaluate, isSmaller, extended name value isSmaller]
      | none =>
          cases isLarger : larger name with
          | none =>
              refine .inl ?_
              rw [evaluate, evaluate, isSmaller, isLarger]
          | some value =>
              exact .inr ⟨name, value, evaluate_parameter_eq_error_iff.mpr ⟨isSmaller, rfl⟩,
                isLarger⟩
  | negate operand inductionHypothesis =>
      exact inductionHypothesis.bind fun _ => .inl rfl
  | binary operator left right leftHypothesis rightHypothesis =>
      exact leftHypothesis.bind fun _ => rightHypothesis.bind fun _ => .inl rfl
  | conditional condition thenBranch elseBranch forCondition forThen forElse =>
      -- both sides select the same branch, so only that branch has to continue
      refine forCondition.bind fun found => ?_
      cases found with
      | number number => exact .inl rfl
      | boolean flag =>
          cases flag with
          | true => exact forThen
          | false => exact forElse

/-- An evaluation that does not stop at a missing parameter has the same outcome under every larger
binding set, be it a value or a failure. An evaluation that stops at a missing parameter stops at a
name of its tree that is not bound, and it stops there under every larger binding set that does not
bind this name. -/
theorem evaluate_settled (tree : Expression) (smaller larger : Bindings)
    (extended : Extends larger.get? smaller.get?) :
    ((∀ name, tree.evaluate smaller.get? ≠ .error (.undefinedParameter name)) →
      tree.evaluate larger.get? = tree.evaluate smaller.get?) ∧
    ∀ name, tree.evaluate smaller.get? = .error (.undefinedParameter name) →
      name ∈ tree.names ∧ smaller.get? name = none ∧
        (larger.get? name = none →
          tree.evaluate larger.get? = .error (.undefinedParameter name)) := by
  have outcomes := continues_evaluate extended tree
  constructor
  · intro settled
    rcases outcomes with same | ⟨name, value, fails, _⟩
    · exact same
    · exact absurd fails (settled name)
  · intro name fails
    obtain ⟨isMentioned, isMissing⟩ := missing_of_evaluate fails
    refine ⟨(tree.mem_names_iff name).mpr isMentioned, isMissing, fun stillMissing => ?_⟩
    rcases outcomes with same | ⟨other, value, otherFails, isBound⟩
    · rw [same, fails]
    · rw [fails] at otherFails
      cases otherFails
      rw [stillMissing] at isBound
      contradiction

/-- A division by zero is settled without the branch that is not selected. A missing side stays
missing when a door is bound. -/
theorem evaluate_settled_door :
    let quotient : Expression := .conditional (.parameter "hasBack")
      (.binary .div (.parameter "width") (.parameter "depth")) (.parameter "side")
    let branch : Expression := .conditional (.parameter "hasBack") (.parameter "side")
      (.parameter "depth")
    let smaller : Bindings :=
      ⟨⟨[("hasBack", .boolean true), ("width", .number Value.one), ("depth", .number .zero)],
        by decide⟩, by decide +kernel⟩
    let larger : Bindings :=
      ⟨⟨smaller.table.entries ++ [("door", .number Value.one)], by decide⟩, by decide +kernel⟩
    Extends larger.get? smaller.get? ∧
      quotient.evaluate smaller.get? = .error .divisionByZero ∧
      quotient.evaluate larger.get? = quotient.evaluate smaller.get? ∧
      branch.evaluate smaller.get? = .error (.undefinedParameter "side") ∧
      "side" ∈ branch.names ∧ smaller.get? "side" = none ∧
      branch.evaluate larger.get? = .error (.undefinedParameter "side") := by
  intro quotient branch smaller larger
  have extended : Extends larger.get? smaller.get? := by
    intro name value isBound
    refine (larger.table.get_eq_some_iff name value).mpr (List.mem_append_left _ ?_)
    exact (smaller.table.get_eq_some_iff name value).mp isBound
  have divides : quotient.evaluate smaller.get? = .error .divisionByZero := by rfl
  have stops : branch.evaluate smaller.get? = .error (.undefinedParameter "side") := by rfl
  have stillMissing : larger.get? "side" = none := by rfl
  have settled : ∀ name, quotient.evaluate smaller.get? ≠ .error (.undefinedParameter name) := by
    rw [divides]
    exact fun name => nofun
  obtain ⟨isMentioned, isMissing, stopsAgain⟩ :=
    (evaluate_settled branch smaller larger extended).2 "side" stops
  exact ⟨extended, divides, (evaluate_settled quotient smaller larger extended).1 settled, stops,
    isMentioned, isMissing, stopsAgain stillMissing⟩

end Expression

end Casework
