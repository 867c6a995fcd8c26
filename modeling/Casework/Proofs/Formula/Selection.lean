import Casework.Bindings.Basic
import Casework.Proofs.Formula.Evaluation

namespace Casework.Expression

/-- The other tree has any trees in the places of branches that are not selected. The condition of
such a branch is a flag, which selects the other branch. More branches may be replaced in operands,
in conditions and in branches that stay. -/
inductive Redrawn (parameters : String → Option Value) : Expression → Expression → Prop where
  | number (literal : Binary64.Finite) : Redrawn parameters (.number literal) (.number literal)
  | parameter (name : String) : Redrawn parameters (.parameter name) (.parameter name)
  | negate {operand otherOperand : Expression}
      (inOperand : Redrawn parameters operand otherOperand) :
      Redrawn parameters (.negate operand) (.negate otherOperand)
  | binary {operator : Operator} {left otherLeft right otherRight : Expression}
      (inLeft : Redrawn parameters left otherLeft) (inRight : Redrawn parameters right otherRight) :
      Redrawn parameters (.binary operator left right) (.binary operator otherLeft otherRight)
  | conditional {condition otherCondition thenBranch otherThen elseBranch otherElse : Expression}
      (inCondition : Redrawn parameters condition otherCondition)
      (inThen : Redrawn parameters thenBranch otherThen)
      (inElse : Redrawn parameters elseBranch otherElse) :
      Redrawn parameters (.conditional condition thenBranch elseBranch)
        (.conditional otherCondition otherThen otherElse)
  | elseReplaced {condition otherCondition thenBranch otherThen elseBranch : Expression}
      (isSet : condition.evaluate parameters = .ok (.boolean true))
      (inCondition : Redrawn parameters condition otherCondition)
      (inThen : Redrawn parameters thenBranch otherThen) (anything : Expression) :
      Redrawn parameters (.conditional condition thenBranch elseBranch)
        (.conditional otherCondition otherThen anything)
  | thenReplaced {condition otherCondition thenBranch elseBranch otherElse : Expression}
      (isCleared : condition.evaluate parameters = .ok (.boolean false))
      (inCondition : Redrawn parameters condition otherCondition)
      (inElse : Redrawn parameters elseBranch otherElse) (anything : Expression) :
      Redrawn parameters (.conditional condition thenBranch elseBranch)
        (.conditional otherCondition anything otherElse)

/-- Nothing has to be replaced. -/
theorem Redrawn.refl {parameters : String → Option Value} (tree : Expression) :
    Redrawn parameters tree tree := by
  induction tree with
  | number literal => exact .number literal
  | parameter name => exact .parameter name
  | negate operand inOperand => exact .negate inOperand
  | binary operator left right inLeft inRight => exact .binary inLeft inRight
  | conditional condition thenBranch elseBranch inCondition inThen inElse =>
      exact .conditional inCondition inThen inElse

/-- A tree and a tree with anything in the places of branches that are not selected have the same
outcome under a binding set, be it a value or a failure. -/
theorem evaluate_redrawn {bindings : Bindings} {tree other : Expression}
    (redrawn : Redrawn bindings.get? tree other) :
    other.evaluate bindings.get? = tree.evaluate bindings.get? := by
  induction redrawn with
  | number literal => rfl
  | parameter name => rfl
  | negate _ sameOperand => rw [evaluate, evaluate, sameOperand]
  | binary _ _ sameLeft sameRight => rw [evaluate, evaluate, sameLeft, sameRight]
  | conditional _ _ _ sameCondition sameThen sameElse =>
      rw [evaluate, evaluate, sameCondition, sameThen, sameElse]
  | elseReplaced isSet _ _ anything sameCondition sameThen =>
      -- the other condition is set too, so the trees that were exchanged are not evaluated
      rw [evaluate, evaluate, sameCondition, isSet]
      exact sameThen
  | thenReplaced isCleared _ _ anything sameCondition sameElse =>
      rw [evaluate, evaluate, sameCondition, isCleared]
      exact sameElse

/-- A missing side stays the failure when a flag of the condition, a quotient and a branch inside
an operand give way to a number where a flag is due, to a name that no binding set has and to a
division by zero. -/
theorem evaluate_redrawn_missing :
    let bindings : Bindings :=
      ⟨⟨[("hasTop", .boolean true), ("hasBack", .boolean false), ("isCorner", .boolean true),
        ("width", .number Value.one)], by decide⟩, by decide +kernel⟩
    let zero : Expression := .number .zero
    let tree : Expression :=
      .conditional
        (.conditional (.parameter "hasTop") (.parameter "hasBack") (.parameter "isCorner"))
        (.binary .div (.parameter "width") (.parameter "depth"))
        (.binary .sub
          (.negate (.conditional (.parameter "isCorner") (.parameter "width") (.parameter "shelf")))
          (.parameter "side"))
    let other : Expression :=
      .conditional (.conditional (.parameter "hasTop") (.parameter "hasBack") zero)
        (.parameter "nowhere")
        (.binary .sub
          (.negate (.conditional (.parameter "isCorner") (.parameter "width")
            (.binary .div (.parameter "width") zero)))
          (.parameter "side"))
    Redrawn bindings.get? tree other ∧
      tree.evaluate bindings.get? = .error (.undefinedParameter "side") ∧
      other.evaluate bindings.get? = tree.evaluate bindings.get? := by
  intro bindings zero tree other
  have redrawn : Redrawn bindings.get? tree other := by
    refine .thenReplaced rfl ?_ ?_ (.parameter "nowhere")
    · exact .elseReplaced rfl (.refl _) (.refl _) zero
    · exact .binary (.negate (.elseReplaced rfl (.refl _) (.refl _) _)) (.refl _)
  exact ⟨redrawn, rfl, evaluate_redrawn redrawn⟩

end Casework.Expression
