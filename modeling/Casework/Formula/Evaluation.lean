import Casework.Formula.Expression
import Casework.Value

namespace Casework

/-- These are the places that ask for a value of one kind. -/
inductive Place where
  | condition
  | result
  deriving DecidableEq

def Place.description : Place → String
  | .condition => "ternary condition"
  | .result => "formula result"

/-- These are the ways for an evaluation to fail. -/
inductive Failure where
  | undefinedParameter (name : String)
  | kindMismatch (expected found : Kind) (place : Place)
  | divisionByZero
  | outOfRange (operator : Operator)
  deriving DecidableEq

/-- An operation on finite numbers has a finite result or fails. -/
def Operator.apply (operator : Operator) (left right : Binary64.Finite) :
    Except Failure Binary64.Finite :=
  if operator = .div ∧ right.isZero then .error .divisionByZero
  else
    let result :=
      match operator with
      | .add => left.add right
      | .sub => left.sub right
      | .mul => left.mul right
      | .div => left.div right
    match result with
    | .finite value => .ok value
    | _ => .error (.outOfRange operator)

namespace Expression

/-- The parameters are a partial function from names to values. -/
def evaluate (parameters : String → Option Value) : Expression → Except Failure Value
  | .number value => .ok (.number value)
  | .parameter name =>
    match parameters name with
    | some value => .ok value
    | none => .error (.undefinedParameter name)
  | .negate operand => do
    let value ← operand.evaluate parameters
    .ok (.number value.asNumber.negate)
  | .binary operator left right => do
    let leftValue ← left.evaluate parameters
    let rightValue ← right.evaluate parameters
    let result ← operator.apply leftValue.asNumber rightValue.asNumber
    .ok (.number result)
  | .conditional condition thenBranch elseBranch => do
    match ← condition.evaluate parameters with
    | .boolean true => thenBranch.evaluate parameters
    | .boolean false => elseBranch.evaluate parameters
    | .number _ => .error (.kindMismatch .boolean .number .condition)

/-- The result has to be a number. -/
def evaluateNumber (parameters : String → Option Value) (tree : Expression) :
    Except Failure Binary64.Finite := do
  match ← tree.evaluate parameters with
  | .number value => .ok value
  | .boolean _ => .error (.kindMismatch .number .boolean .result)

end Expression

/-- Only a division by zero fails with that cause. -/
theorem Operator.apply_eq_divisionByZero_iff (operator : Operator) (left right : Binary64.Finite) :
    operator.apply left right = .error .divisionByZero ↔
      operator = .div ∧ right.isZero = true := by
  unfold Operator.apply
  split
  · simp_all
  · rename_i other
    simp only [other, iff_false]
    split <;> simp

end Casework
