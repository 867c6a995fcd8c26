/-
This file writes trees as formula texts. Operations and conditionals always stand in
parentheses, so no reader needs the precedence of operators.
-/

import Casework.Decimal.Layout
import Casework.Formula.Expression

namespace Casework.Expression

open Binary64

/-- A negative literal is written as a negation in parentheses. -/
def literalText (value : Finite) : List Char :=
  if value.units < 0 then '(' :: '-' :: Decimal.plain value ++ [')'] else Decimal.plain value

/-- A minus may not follow a minus, so a negation of a negation stands in parentheses. -/
def characters : Expression → List Char
  | .number value => literalText value
  | .parameter name => name.toList
  | .negate (.negate operand) => '-' :: '(' :: (characters (.negate operand) ++ [')'])
  | .negate operand => '-' :: characters operand
  | .binary operator left right =>
    '(' :: (characters left ++ ' ' :: operator.symbol :: ' ' :: (characters right ++ [')']))
  | .conditional condition thenBranch elseBranch =>
    '(' :: (characters condition ++ ' ' :: '?' :: ' ' ::
      (characters thenBranch ++ ' ' :: ':' :: ' ' :: (characters elseBranch ++ [')'])))

def print (tree : Expression) : String := String.ofList tree.characters

end Casework.Expression
