import Casework.Proofs.Formula.Unambiguity

namespace Casework.Grammar

namespace Derivation

variable {phrase : Phrase} {rank : Rank}

/-- This is the count of parentheses and branches of conditionals that are nested inside one
another. -/
def nesting : {phrase : Phrase} → Derivation phrase → Nat
  | _, .number _ _ => 0
  | _, .parameter _ _ => 0
  | _, .parentheses _ _ _ _ inner => inner.nesting + 1
  | _, .unsigned operand => operand.nesting
  | _, .negated _ _ operand => operand.nesting
  | _, .lone item => item.nesting
  | _, .joined left _ _ _ _ right => max left.nesting right.nesting
  | _, .unconditional sum => sum.nesting
  | _, .conditional condition _ _ _ _ thenBranch elseBranch =>
    max condition.nesting (max thenBranch.nesting elseBranch.nesting + 1)

/-- The height is the depth of the tree, whatever the numerals denote. -/
def height : {phrase : Phrase} → Derivation phrase → Nat
  | _, .number _ _ => 1
  | _, .parameter _ _ => 1
  | _, .parentheses _ _ _ _ inner => inner.height
  | _, .unsigned operand => operand.height
  | _, .negated _ _ operand => 1 + operand.height
  | _, .lone item => item.height
  | _, .joined left _ _ _ _ right => 1 + max left.height right.height
  | _, .unconditional sum => sum.height
  | _, .conditional condition _ _ _ _ thenBranch elseBranch =>
    1 + max condition.height (max thenBranch.height elseBranch.height)

theorem height_pos (derivation : Derivation phrase) : 0 < derivation.height := by
  induction derivation <;> unfold height <;> omega

/-- The outermost formula is a level without being nested in anything. -/
theorem levels_eq (derivation : Derivation phrase) :
    derivation.levels = derivation.nesting + if phrase = .formula then 1 else 0 := by
  induction derivation with
  | number => rfl
  | parameter => rfl
  | parentheses opening closing opens closes inner inductionHypothesis => exact inductionHypothesis
  | unsigned operand inductionHypothesis => exact inductionHypothesis
  | negated minus isMinus operand inductionHypothesis => exact inductionHypothesis
  | @lone rank item inductionHypothesis => cases rank <;> exact inductionHypothesis
  | @joined rank left symbol operator ranked stands right leftHypothesis rightHypothesis =>
      have sameRight : right.levels = right.nesting := by cases rank <;> exact rightHypothesis
      have sameLeft : left.levels = left.nesting := leftHypothesis
      show max left.levels right.levels = max left.nesting right.nesting
      rw [sameLeft, sameRight]
  | unconditional sum inductionHypothesis => exact congrArg (· + 1) inductionHypothesis
  | conditional condition question colon asks separates thenBranch elseBranch first second third =>
      have sameCondition : condition.levels = condition.nesting := first
      have sameThen : thenBranch.levels = thenBranch.nesting + 1 := second
      have sameElse : elseBranch.levels = elseBranch.nesting + 1 := third
      show max condition.levels (max thenBranch.levels elseBranch.levels) + 1 =
        max condition.nesting (max thenBranch.nesting elseBranch.nesting + 1) + 1
      omega

/-- A tree is as deep as its derivation is high. -/
theorem depth_eq_height {derivation : Derivation phrase} {tree : Expression}
    (hasTree : derivation.tree? = some tree) : tree.depth = derivation.height := by
  induction derivation generalizing tree with
  | number token =>
      obtain ⟨value, _, rfl⟩ := Option.map_eq_some_iff.mp hasTree
      rfl
  | parameter token =>
      cases hasTree
      rfl
  | parentheses opening closing opens closes inner inductionHypothesis =>
      exact inductionHypothesis hasTree
  | unsigned operand inductionHypothesis => exact inductionHypothesis hasTree
  | negated minus isMinus operand inductionHypothesis =>
      obtain ⟨inner, hasInner, rfl⟩ := Option.map_eq_some_iff.mp hasTree
      exact congrArg (1 + ·) (inductionHypothesis hasInner)
  | lone item inductionHypothesis => exact inductionHypothesis hasTree
  | joined left symbol operator ranked stands right leftHypothesis rightHypothesis =>
      obtain ⟨leftTree, hasLeft, hasTree⟩ := Option.bind_eq_some_iff.mp hasTree
      obtain ⟨rightTree, hasRight, hasTree⟩ := Option.bind_eq_some_iff.mp hasTree
      cases hasTree
      rw [Expression.depth, height, leftHypothesis hasLeft, rightHypothesis hasRight]
  | unconditional sum inductionHypothesis => exact inductionHypothesis hasTree
  | conditional condition question colon asks separates thenBranch elseBranch first second third =>
      obtain ⟨conditionTree, hasCondition, hasTree⟩ := Option.bind_eq_some_iff.mp hasTree
      obtain ⟨thenTree, hasThen, hasTree⟩ := Option.bind_eq_some_iff.mp hasTree
      obtain ⟨elseTree, hasElse, hasTree⟩ := Option.bind_eq_some_iff.mp hasTree
      cases hasTree
      rw [Expression.depth, height, first hasCondition, second hasThen, third hasElse]

/-- More steps make an operation no smaller. -/
theorem le_followedBy (left : Derivation (.operation rank)) (steps : List (Step rank)) :
    left.levels ≤ (left.followedBy steps).levels ∧
      left.height ≤ (left.followedBy steps).height := by
  induction steps generalizing left with
  | nil => exact ⟨Nat.le_refl _, Nat.le_refl _⟩
  | cons step others inductionHypothesis =>
      obtain ⟨levels, height⟩ := inductionHypothesis
        (.joined left step.symbol step.operator step.ranked step.stands step.item)
      refine ⟨Nat.le_trans (Nat.le_max_left _ _) levels, Nat.le_trans ?_ height⟩
      exact Nat.le_trans (Nat.le_max_left _ _) (Nat.le_add_left _ _)

/-- The item of a first step counts like the operation before it. -/
theorem item_le_followedBy (left : Derivation (.operation rank)) (step : Step rank)
    (others : List (Step rank)) :
    step.item.levels ≤ (left.followedBy (step :: others)).levels ∧
      1 + max left.height step.item.height ≤ (left.followedBy (step :: others)).height := by
  obtain ⟨levels, height⟩ := le_followedBy
    (.joined left step.symbol step.operator step.ranked step.stands step.item) others
  exact ⟨Nat.le_trans (Nat.le_max_right _ _) levels, height⟩

end Derivation

end Casework.Grammar
