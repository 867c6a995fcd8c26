import Casework.Binary64.Basic

namespace Casework

/-- These are the operations of arithmetic. -/
inductive Operator where
  | add
  | sub
  | mul
  | div
  deriving DecidableEq

namespace Operator

def symbol : Operator → Char
  | .add => '+'
  | .sub => '-'
  | .mul => '*'
  | .div => '/'

def ofSymbol? : Char → Option Operator
  | '+' => some .add
  | '-' => some .sub
  | '*' => some .mul
  | '/' => some .div
  | _ => none

end Operator

/-- A formula is a literal, a parameter, or built from smaller formulas. -/
inductive Expression where
  | number (value : Binary64.Finite)
  | parameter (name : String)
  | negate (operand : Expression)
  | binary (operator : Operator) (left right : Expression)
  | conditional (condition thenBranch elseBranch : Expression)
  deriving DecidableEq

namespace Expression

instance : Inhabited Expression := ⟨.number .zero⟩

/-- A leaf has the depth one. -/
def depth : Expression → Nat
  | .number _ => 1
  | .parameter _ => 1
  | .negate operand => 1 + operand.depth
  | .binary _ left right => 1 + max left.depth right.depth
  | .conditional condition thenBranch elseBranch =>
    1 + max condition.depth (max thenBranch.depth elseBranch.depth)

/-- Equal trees have the same shape and names, and their literals are equal numbers. -/
def equals : Expression → Expression → Bool
  | .number left, .number right => left.equals right
  | .parameter left, .parameter right => left == right
  | .negate left, .negate right => left.equals right
  | .binary firstOperator firstLeft firstRight, .binary secondOperator secondLeft secondRight =>
    firstOperator == secondOperator && firstLeft.equals secondLeft &&
      firstRight.equals secondRight
  | .conditional firstCondition firstThen firstElse,
      .conditional secondCondition secondThen secondElse =>
    firstCondition.equals secondCondition && firstThen.equals secondThen &&
      firstElse.equals secondElse
  | _, _ => false

/-- These are the parameters that a tree mentions, once for every mention. -/
def mentions : Expression → List String
  | .number _ => []
  | .parameter name => [name]
  | .negate operand => operand.mentions
  | .binary _ left right => left.mentions ++ right.mentions
  | .conditional condition thenBranch elseBranch =>
    condition.mentions ++ (thenBranch.mentions ++ elseBranch.mentions)

/-- These are the parameters that a tree mentions, each once and in the order of their
characters. -/
def names (tree : Expression) : List String :=
  tree.mentions.eraseDups.mergeSort fun first second => first ≤ second

@[simp]
theorem mem_names_iff (tree : Expression) (name : String) :
    name ∈ tree.names ↔ name ∈ tree.mentions := by
  simp [names, List.mem_mergeSort, List.mem_eraseDups]

end Expression

end Casework
