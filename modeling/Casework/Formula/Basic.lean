import Casework.Formula.Problem
import Casework.Formula.Reading

namespace Casework

/-- A formula has a name, the text that it was read from and a tree. -/
structure Formula where
  name : String
  source : String
  tree : Expression

namespace Formula

/-- A formula text is stored with its formula, or with the error that it has. -/
abbrev Entry := Except SyntaxError Formula

/-- A text without a name is its own name. -/
def read (source : String) (name : Option String) : Entry :=
  (Expression.parse source).map fun tree => ⟨name.getD source, source, tree⟩

def line (formula : Formula) : String := formula.name ++ " = " ++ formula.source

/-- An outcome is a finite number or the failure of an evaluation. -/
def evaluate (parameters : String → Option Value) (formula : Formula) :
    Except Failure Binary64.Finite :=
  formula.tree.evaluateNumber parameters

theorem name_of_read {source name : String} {formula : Formula}
    (isRead : read source (some name) = .ok formula) :
    formula.name = name ∧ formula.source = source := by
  unfold read at isRead
  cases parsed : Expression.parse source with
  | error error => simp [parsed, Except.map] at isRead
  | ok tree =>
      rw [parsed] at isRead
      cases isRead
      exact ⟨rfl, rfl⟩

end Formula

end Casework
