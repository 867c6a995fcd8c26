namespace Casework.Text

/-- A line feed, a carriage return and the two together end a line. -/
def isLineEnd (character : Char) : Bool := character == '\n' || character == '\r'

/-- Every kind of line end counts as a line feed. -/
def unifyLineEnds : List Char → List Char
  | '\r' :: '\n' :: rest => '\n' :: unifyLineEnds rest
  | '\r' :: rest => '\n' :: unifyLineEnds rest
  | first :: rest => first :: unifyLineEnds rest
  | [] => []

@[simp]
theorem unifyLineEnds_pair (rest : List Char) :
    unifyLineEnds ('\r' :: '\n' :: rest) = '\n' :: unifyLineEnds rest := by
  rw [unifyLineEnds]

/-- A carriage return without a line feed behind it is a line end of its own. -/
theorem unifyLineEnds_return {rest : List Char} (single : rest.head? ≠ some '\n') :
    unifyLineEnds ('\r' :: rest) = '\n' :: unifyLineEnds rest := by
  rw [unifyLineEnds]
  rintro others rfl
  exact single rfl

theorem unifyLineEnds_cons {first : Char} (noReturn : first ≠ '\r') (rest : List Char) :
    unifyLineEnds (first :: rest) = first :: unifyLineEnds rest := by
  rw [unifyLineEnds] <;> simp [noReturn]

end Casework.Text
