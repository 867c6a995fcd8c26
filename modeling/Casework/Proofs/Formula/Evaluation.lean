/-
This file states, for each sort of tree, when its evaluation succeeds and when it fails. Proofs
about evaluation use these statements in place of the evaluator.
-/

import Casework.Formula.Evaluation
import Casework.ToMathlib.Except

namespace Casework

/-- Only a zero divisor or a result that is not finite stops arithmetic. -/
def Failure.IsArithmetic (failure : Failure) : Prop :=
  failure = .divisionByZero ∨ ∃ operator, failure = .outOfRange operator

/-- An operator fails by a zero divisor or by a result out of range only. -/
theorem Operator.isArithmetic_of_apply {operator : Operator} {left right : Binary64.Finite}
    {failure : Failure} (fails : operator.apply left right = .error failure) :
    failure.IsArithmetic := by
  unfold Operator.apply at fails
  split at fails
  · cases fails
    exact .inl rfl
  · dsimp only at fails
    split at fails
    · contradiction
    · cases fails
      exact .inr ⟨operator, rfl⟩

namespace Expression

variable {parameters : String → Option Value} {value : Value} {failure : Failure}

/-- A parameter has the value that it is bound to. -/
theorem evaluate_parameter_eq_ok_iff {name : String} :
    (parameter name).evaluate parameters = .ok value ↔ parameters name = some value := by
  unfold evaluate
  cases parameters name <;> simp

/-- A parameter fails exactly when it is not bound. -/
theorem evaluate_parameter_eq_error_iff {name : String} :
    (parameter name).evaluate parameters = .error failure ↔
      parameters name = none ∧ failure = .undefinedParameter name := by
  unfold evaluate
  cases parameters name <;> simp [eq_comm]

/-- A negation negates the number of its operand. -/
theorem evaluate_negate_eq_ok_iff {operand : Expression} :
    (negate operand).evaluate parameters = .ok value ↔
      ∃ inner, operand.evaluate parameters = .ok inner ∧ value = .number inner.asNumber.negate := by
  rw [evaluate, Except.bind_eq_ok_iff]
  simp [eq_comm]

/-- A negation fails as its operand does. -/
theorem evaluate_negate_eq_error_iff {operand : Expression} :
    (negate operand).evaluate parameters = .error failure ↔
      operand.evaluate parameters = .error failure := by
  rw [evaluate, Except.bind_eq_error_iff]
  simp

/-- An operator is applied to the numbers of both operands. -/
theorem evaluate_binary_eq_ok_iff {operator : Operator} {left right : Expression} :
    (binary operator left right).evaluate parameters = .ok value ↔
      ∃ leftValue rightValue result, left.evaluate parameters = .ok leftValue ∧
        right.evaluate parameters = .ok rightValue ∧
        operator.apply leftValue.asNumber rightValue.asNumber = .ok result ∧
        value = .number result := by
  simp only [evaluate, Except.bind_eq_ok_iff, Except.ok.injEq]
  constructor
  · rintro ⟨leftValue, hasLeft, rightValue, hasRight, result, applied, equal⟩
    exact ⟨leftValue, rightValue, result, hasLeft, hasRight, applied, equal.symm⟩
  · rintro ⟨leftValue, rightValue, result, hasLeft, hasRight, applied, equal⟩
    exact ⟨leftValue, hasLeft, rightValue, hasRight, result, applied, equal.symm⟩

/-- The right operand is evaluated when the left one has a value. -/
theorem evaluate_binary_eq_error_iff {operator : Operator} {left right : Expression} :
    (binary operator left right).evaluate parameters = .error failure ↔
      left.evaluate parameters = .error failure ∨
      (∃ leftValue, left.evaluate parameters = .ok leftValue ∧
        right.evaluate parameters = .error failure) ∨
      ∃ leftValue rightValue, left.evaluate parameters = .ok leftValue ∧
        right.evaluate parameters = .ok rightValue ∧
        operator.apply leftValue.asNumber rightValue.asNumber = .error failure := by
  simp only [evaluate, Except.bind_eq_error_iff, reduceCtorEq, and_false, exists_false, or_false]
  refine or_congr_right ?_
  constructor
  · rintro ⟨leftValue, hasLeft, fails | ⟨rightValue, hasRight, fails⟩⟩
    · exact .inl ⟨leftValue, hasLeft, fails⟩
    · exact .inr ⟨leftValue, rightValue, hasLeft, hasRight, fails⟩
  · rintro (⟨leftValue, hasLeft, fails⟩ | ⟨leftValue, rightValue, hasLeft, hasRight, fails⟩)
    · exact ⟨leftValue, hasLeft, .inl fails⟩
    · exact ⟨leftValue, hasLeft, .inr ⟨rightValue, hasRight, fails⟩⟩

/-- A flag selects one of the branches. -/
theorem evaluate_conditional_eq_ok_iff {condition thenBranch elseBranch : Expression} :
    (conditional condition thenBranch elseBranch).evaluate parameters = .ok value ↔
      ∃ flag, condition.evaluate parameters = .ok (.boolean flag) ∧
        (if flag then thenBranch else elseBranch).evaluate parameters = .ok value := by
  rw [evaluate, Except.bind_eq_ok_iff]
  constructor
  · rintro ⟨_ | flag, hasValue, selected⟩
    · contradiction
    · refine ⟨flag, hasValue, ?_⟩
      cases flag <;> exact selected
  · rintro ⟨flag, hasValue, selected⟩
    refine ⟨.boolean flag, hasValue, ?_⟩
    cases flag <;> exact selected

/-- A conditional fails in its condition, by a condition that is a number, or in the branch it
takes. -/
theorem evaluate_conditional_eq_error_iff {condition thenBranch elseBranch : Expression} :
    (conditional condition thenBranch elseBranch).evaluate parameters = .error failure ↔
      condition.evaluate parameters = .error failure ∨
      (∃ found, condition.evaluate parameters = .ok (.number found) ∧
        failure = .kindMismatch .boolean .number .condition) ∨
      ∃ flag, condition.evaluate parameters = .ok (.boolean flag) ∧
        (if flag then thenBranch else elseBranch).evaluate parameters = .error failure := by
  rw [evaluate, Except.bind_eq_error_iff]
  refine or_congr_right ?_
  constructor
  · rintro ⟨found | flag, hasValue, selected⟩
    · cases selected
      exact .inl ⟨found, hasValue, rfl⟩
    · refine .inr ⟨flag, hasValue, ?_⟩
      cases flag <;> exact selected
  · rintro (⟨found, hasValue, rfl⟩ | ⟨flag, hasValue, selected⟩)
    · exact ⟨.number found, hasValue, rfl⟩
    · refine ⟨.boolean flag, hasValue, ?_⟩
      cases flag <;> exact selected

/-- A result is a value that is a number. -/
theorem evaluateNumber_eq_ok_iff {tree : Expression} {result : Binary64.Finite} :
    tree.evaluateNumber parameters = .ok result ↔
      tree.evaluate parameters = .ok (.number result) := by
  rw [evaluateNumber, Except.bind_eq_ok_iff]
  constructor
  · rintro ⟨found | flag, hasValue, isNumber⟩
    · cases isNumber
      exact hasValue
    · contradiction
  · exact fun hasValue => ⟨_, hasValue, rfl⟩

/-- There is no result when the evaluation fails or ends in a flag. -/
theorem evaluateNumber_eq_error_iff {tree : Expression} :
    tree.evaluateNumber parameters = .error failure ↔
      tree.evaluate parameters = .error failure ∨
      ∃ flag, tree.evaluate parameters = .ok (.boolean flag) ∧
        failure = .kindMismatch .number .boolean .result := by
  rw [evaluateNumber, Except.bind_eq_error_iff]
  refine or_congr_right ?_
  constructor
  · rintro ⟨found | flag, hasValue, isRefused⟩
    · contradiction
    · cases isRefused
      exact ⟨flag, hasValue, rfl⟩
  · rintro ⟨flag, hasValue, rfl⟩
    exact ⟨.boolean flag, hasValue, rfl⟩

end Expression

end Casework
