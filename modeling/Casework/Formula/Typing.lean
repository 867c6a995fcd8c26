import Casework.Formula.Problem

namespace Casework.Expression

/-- Arithmetic is a number. A conditional has a kind when both branches agree on it. -/
def kind? (kinds : String → Option Kind) : Expression → Option Kind
  | .number _ => some .number
  | .parameter name => kinds name
  | .negate _ => some .number
  | .binary _ _ _ => some .number
  | .conditional _ thenBranch elseBranch =>
    match thenBranch.kind? kinds, elseBranch.kind? kinds with
    | some first, some second => if first = second then some first else none
    | _, _ => none

/-- These are the conditions of a tree in the order of their first characters. -/
def conditions : Expression → List Expression
  | .number _ => []
  | .parameter _ => []
  | .negate operand => operand.conditions
  | .binary _ left right => left.conditions ++ right.conditions
  | .conditional condition thenBranch elseBranch =>
    condition :: (condition.conditions ++ (thenBranch.conditions ++ elseBranch.conditions))

/-- Unknown parameters come first, then conditions that are numbers, and a result that is a
flag comes last. -/
def failures (kinds : String → Option Kind) (tree : Expression) : List Failure :=
  (tree.names.filter fun name => (kinds name).isNone).map .undefinedParameter ++
    ((tree.conditions.filter fun condition => condition.kind? kinds = some .number).map fun _ =>
      .kindMismatch .boolean .number .condition) ++
    if tree.kind? kinds = some .boolean then [.kindMismatch .number .boolean .result] else []

/-- These are the problems that show without values. -/
def problems (kinds : String → Option Kind) (tree : Expression) : List Problem :=
  (tree.failures kinds).map Failure.problem

end Casework.Expression
