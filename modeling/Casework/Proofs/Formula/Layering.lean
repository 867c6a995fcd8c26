/-
This file proves which trees formula texts have. A text with parentheses around every operand and
every condition takes no more levels than the depth of the tree.
-/

import Casework.Proofs.Formula.RoundTrip

namespace Casework.Expression

open Grammar Token

/-- Every operand and every condition stands in parentheses, and the branches of a conditional stand
without any. -/
def layered : Expression → List Char
  | .number value => Decimal.plain value
  | .parameter name => name.toList
  | .negate operand => '-' :: '(' :: (operand.layered ++ [')'])
  | .binary operator left right =>
    '(' :: (left.layered ++ [')']) ++
      ' ' :: operator.symbol :: ' ' :: '(' :: (right.layered ++ [')'])
  | .conditional condition thenBranch elseBranch =>
    '(' :: (condition.layered ++ [')']) ++
      ' ' :: '?' :: ' ' :: (thenBranch.layered ++ ' ' :: ':' :: ' ' :: elseBranch.layered)

/-- The text spells the tree, with one level for each step of its depth. -/
theorem spells_layered {tree : Expression} (written : tree.Written) :
    Spells .formula tree.layered tree tree.depth := by
  induction tree with
  | number value =>
      have unsigned : value.magnitude = value := Binary64.Finite.eq_iff.mpr ⟨written.symm, rfl⟩
      have spells := spells_plain value
      rw [unsigned] at spells
      exact spells.signed.formula
  | parameter name => exact (spells_parameter written).signed.formula
  | negate operand inductionHypothesis =>
      exact (inductionHypothesis written).parentheses.negate.formula
  | binary operator left right leftHypothesis rightHypothesis =>
      have spellsLeft := (leftHypothesis written.1).parentheses.signed
      have spellsRight := (rightHypothesis written.2).parentheses.signed
      exact (Spells.binary operator spellsLeft spellsRight).unconditional
  | conditional condition thenBranch elseBranch first second third =>
      have spellsCondition := (first written.1).parentheses.signed.operation .additive
      exact spellsCondition.conditional (second written.2.1) (third written.2.2)

/-- The text of a tree within the limit is read as the tree. -/
theorem parse_layered {tree : Expression} (written : tree.Written)
    (shallow : tree.depth ≤ depthLimit) : parse (String.ofList tree.layered) = .ok tree := by
  obtain ⟨derivation, hasTree, hasLevels, scans⟩ := spells_layered written 0
  rw [← String.toList_ofList (l := tree.layered)] at scans
  obtain ⟨finish, isRead⟩ := parse_of_scans scans
  rw [isRead]
  exact readAll_eq_ok_iff.mpr ⟨derivation, rfl, hasTree, hasLevels ▸ shallow, shallow⟩

/-- A tree is the tree of some text exactly when its depth is at most 64, its literals have no sign
and its names are identifiers. -/
theorem exists_parse_iff (tree : Expression) :
    (∃ source, parse source = .ok tree) ↔ tree.depth ≤ 64 ∧ tree.Written := by
  constructor
  · rintro ⟨source, accepted⟩
    exact (written_of_parse accepted).symm
  · rintro ⟨shallow, written⟩
    exact ⟨String.ofList tree.layered, parse_layered written shallow⟩

end Casework.Expression
