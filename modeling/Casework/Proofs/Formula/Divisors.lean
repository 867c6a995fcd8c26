import Casework.Proofs.Formula.KindSafety

namespace Casework.Expression

/-- These are the trees that a tree divides by. -/
def divisors : Expression → List Expression
  | .number _ => []
  | .parameter _ => []
  | .negate operand => operand.divisors
  | .binary operator left right =>
    (if operator = .div then [right] else []) ++ (left.divisors ++ right.divisors)
  | .conditional condition thenBranch elseBranch =>
    condition.divisors ++ (thenBranch.divisors ++ elseBranch.divisors)

/-- No divisor has the value zero. -/
def DividesSafely (parameters : String → Option Value) (tree : Expression) : Prop :=
  ∀ divisor ∈ tree.divisors, ∀ value,
    divisor.evaluate parameters = .ok value → value.asNumber.isZero = false

variable {parameters : String → Option Value}

/-- A tree without zero divisors does not divide by zero, whichever of its parts are evaluated. -/
theorem ne_divisionByZero_of_evaluate {tree : Expression}
    (safely : tree.DividesSafely parameters) :
    tree.evaluate parameters ≠ .error .divisionByZero := by
  intro fails
  induction tree with
  | number literal => contradiction
  | parameter name => exact nomatch (evaluate_parameter_eq_error_iff.mp fails).2
  | negate operand inductionHypothesis =>
      exact inductionHypothesis safely (evaluate_negate_eq_error_iff.mp fails)
  | binary operator left right leftHypothesis rightHypothesis =>
      obtain ⟨here, inside⟩ := List.forall_mem_append.mp safely
      obtain ⟨ofLeft, ofRight⟩ := List.forall_mem_append.mp inside
      rcases evaluate_binary_eq_error_iff.mp fails with
        leftFails | ⟨_, _, rightFails⟩ | ⟨_, rightValue, _, hasRight, applied⟩
      · exact leftHypothesis ofLeft leftFails
      · exact rightHypothesis ofRight rightFails
      · obtain ⟨isDivision, isZero⟩ := (operator.apply_eq_divisionByZero_iff _ _).mp applied
        rw [if_pos isDivision, List.forall_mem_singleton] at here
        exact absurd isZero (by simp [here rightValue hasRight])
  | conditional condition thenBranch elseBranch first second third =>
      obtain ⟨ofCondition, ofBranches⟩ := List.forall_mem_append.mp safely
      obtain ⟨ofThen, ofElse⟩ := List.forall_mem_append.mp ofBranches
      rcases evaluate_conditional_eq_error_iff.mp fails with
        conditionFails | ⟨_, _, isMismatch⟩ | ⟨flag, _, branchFails⟩
      · exact first ofCondition conditionFails
      · contradiction
      · cases flag with
        | true => exact second ofThen branchFails
        | false => exact third ofElse branchFails

/-- A divisor is not zero when it is another literal or one of the given parameters. -/
def isNonzero (names : List String) : Expression → Bool
  | .number value => !value.isZero
  | .parameter name => names.contains name
  | _ => false

/-- A tree is sound for some bound parameters, of which some are not zero, when it is a number, its
conditions are flags, and it mentions and divides by nothing else. -/
structure Sound (bound nonzero : List String) (tree : Expression) : Prop where
  mentions : ∀ name ∈ tree.mentions, name ∈ bound ∧ Parameter.kind? name ≠ none
  isNumber : tree.kind? Parameter.kind? = some .number
  conditions : ∀ condition ∈ tree.conditions, condition.kind? Parameter.kind? = some .boolean
  divisors : ∀ divisor ∈ tree.divisors, divisor.isNonzero nonzero = true

instance (bound nonzero : List String) (tree : Expression) :
    Decidable (tree.Sound bound nonzero) :=
  decidable_of_iff
    ((∀ name ∈ tree.mentions, name ∈ bound ∧ Parameter.kind? name ≠ none) ∧
      tree.kind? Parameter.kind? = some .number ∧
      (∀ condition ∈ tree.conditions, condition.kind? Parameter.kind? = some .boolean) ∧
      ∀ divisor ∈ tree.divisors, divisor.isNonzero nonzero = true)
    ⟨fun ⟨mentions, isNumber, conditions, divisors⟩ => ⟨mentions, isNumber, conditions, divisors⟩,
      fun sound => ⟨sound.mentions, sound.isNumber, sound.conditions, sound.divisors⟩⟩

namespace Sound

variable {bound nonzero : List String} {tree : Expression}

/-- A sound tree has no problems. -/
theorem problems_eq_nil (sound : tree.Sound bound nonzero) :
    tree.problems Parameter.kind? = [] := by
  rw [problems_eq_nil_iff]
  refine ⟨fun name isMentioned => (sound.mentions name isMentioned).2, ?_, ?_⟩
  · intro condition isCondition
    rw [sound.conditions condition isCondition]
    simp
  · rw [sound.isNumber]
    simp

/-- With its parameters bound a sound tree has a number or is out of range. -/
theorem evaluateNumber (sound : tree.Sound bound nonzero) {bindings : Bindings}
    (areBound : ∀ name ∈ bound, ∃ value, bindings.get? name = some value)
    (areNonzero : ∀ name ∈ nonzero, ∀ value,
      bindings.get? name = some value → value.asNumber.isZero = false) :
    (∃ result, tree.evaluateNumber bindings.get? = .ok result) ∨
      ∃ operator, tree.evaluateNumber bindings.get? = .error (.outOfRange operator) := by
  have supplies : tree.Supplies bindings.get? Parameter.kind? := by
    intro name isMentioned
    obtain ⟨value, isFound⟩ := areBound name (sound.mentions name isMentioned).1
    exact ⟨value, isFound, Bindings.kind_of_get isFound⟩
  have safely : tree.DividesSafely bindings.get? := by
    intro divisor isDivisor value hasValue
    have isNonzero := sound.divisors divisor isDivisor
    cases divisor with
    | number literal =>
        cases hasValue
        exact (Bool.not_eq_true' _).mp isNonzero
    | parameter name =>
        exact areNonzero name (List.contains_iff_mem.mp isNonzero) value
          (evaluate_parameter_eq_ok_iff.mp hasValue)
    | negate operand => contradiction
    | binary operator left right => contradiction
    | conditional condition thenBranch elseBranch => contradiction
  cases evaluated : tree.evaluateNumber bindings.get? with
  | ok result => exact .inl ⟨result, rfl⟩
  | error failure =>
      rcases evaluateNumber_eq_error_iff.mp evaluated with fails | ⟨flag, hasFlag, _⟩
      · rcases isArithmetic_of_evaluate supplies sound.conditions fails with rfl | ⟨operator, rfl⟩
        · exact absurd fails (ne_divisionByZero_of_evaluate safely)
        · exact .inr ⟨operator, rfl⟩
      · exact nomatch kind_of_evaluate supplies.respects hasFlag sound.isNumber

end Sound

end Casework.Expression
