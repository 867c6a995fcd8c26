import Casework.Proofs.Formula.Slots

namespace Casework.Grammar

/-- The token is the first wrong one of a phrase. The tokens before it begin the phrase, and
no phrase stands in front of tokens that stop it where the token comes next. -/
structure Misplaced (phrase : Phrase) (before : List Token) (token : Token) : Prop where
  begins : ∃ (rest : List Token) (derivation : Derivation phrase),
    derivation.tokens = before ++ rest
  blocks : ∀ (derivation : Derivation phrase) (rest after : List Token), Stops phrase rest →
    derivation.tokens ++ rest ≠ before ++ token :: after

/-- An operand begins with a parenthesis, a number or a name. -/
theorem misplaced_operand {token : Token} (noParenthesis : token.kind ≠ .leftParen)
    (noNumber : token.kind ≠ .number) (noIdentifier : token.kind ≠ .identifier) :
    Misplaced .operand [] token := by
  refine ⟨⟨_, someParameter, rfl⟩, fun derivation rest after _ equal => ?_⟩
  cases derivation with
  | number first isNumber => exact noNumber ((List.cons.inj equal).1 ▸ isNumber)
  | parameter first isIdentifier => exact noIdentifier ((List.cons.inj equal).1 ▸ isIdentifier)
  | parentheses opening closing opens closes inner =>
      exact noParenthesis ((List.cons.inj equal).1 ▸ opens)

/-- A formula in parentheses is followed by the closing one. -/
theorem misplaced_closing {opening token : Token} (opens : opening.kind = .leftParen)
    (inner : Derivation .formula) (stops : token.kind ∉ Phrase.formula.continuations)
    (noClosing : token.kind ≠ .rightParen) :
    Misplaced .operand (opening :: inner.tokens) token := by
  refine ⟨⟨_, .parentheses opening ⟨.rightParen, ")", 0⟩ opens rfl inner, rfl⟩,
    fun other others after _ collides => ?_⟩
  obtain ⟨second, closing, closes, _, collides⟩ := exists_inner opens collides
  obtain ⟨_, sameRest⟩ := Derivation.append_inj (stops_cons closes (by decide))
    (stops_cons rfl stops) collides
  exact noClosing ((List.cons.inj sameRest).1 ▸ closes)

/-- A token that is wrong for an inner phrase is wrong for the phrase around it. -/
theorem Misplaced.within {phrase inner : Phrase} {consumed before : List Token} {levels : Nat}
    {token : Token} (misplaced : Misplaced inner before token)
    (slot : Slot phrase inner consumed levels) :
    Misplaced phrase (consumed ++ before) token := by
  refine ⟨slot.fronts before misplaced.begins, fun whole rest after stops collides => ?_⟩
  rw [List.append_assoc] at collides
  obtain ⟨part, others, partStops, equal, _⟩ := slot.exists_part whole rest _ stops collides
  exact misplaced.blocks part others after partStops equal

/-- A token that is wrong for an operand is wrong for one that may have a sign. -/
theorem Misplaced.unsigned {token : Token} {before : List Token}
    (misplaced : Misplaced .operand before token)
    (noMinus : ∀ first ∈ (before ++ [token]).head?, first.kind ≠ .minus) :
    Misplaced .signed before token := by
  obtain ⟨rest, derivation, equal⟩ := misplaced.begins
  refine ⟨⟨rest, .unsigned derivation, equal⟩, fun other others after _ collides => ?_⟩
  obtain ⟨first, tail, begins⟩ : ∃ first tail, before ++ [token] = first :: tail :=
    List.exists_cons_of_ne_nil (by simp)
  have front : before ++ token :: after = first :: (tail ++ after) := by
    rw [← List.cons_append, ← begins, List.append_assoc, List.singleton_append]
  obtain ⟨operand, rfl⟩ :=
    exists_unsigned (noMinus first (by rw [begins]; rfl)) (collides.trans front)
  exact misplaced.blocks operand others after (stops_operand _) collides

/-- The first branch of a conditional is followed by a colon. -/
theorem misplaced_colon {question token : Token} (condition : Derivation (.operation .additive))
    (asks : question.kind = .question) (thenBranch : Derivation .formula)
    (stops : token.kind ∉ Phrase.formula.continuations) (noColon : token.kind ≠ .colon) :
    Misplaced .formula (condition.tokens ++ question :: thenBranch.tokens) token := by
  refine ⟨⟨⟨.colon, ":", 0⟩ :: someFormula.tokens, .conditional condition question
    ⟨.colon, ":", 0⟩ asks rfl thenBranch someFormula, ?_⟩,
    fun other others after otherStops collides => ?_⟩
  · simp [Derivation.tokens]
  · rw [List.append_assoc, List.cons_append] at collides
    obtain ⟨second, _, colon, separates, _, collides⟩ :=
      exists_branches condition asks otherStops collides
    obtain ⟨_, sameRest⟩ := Derivation.append_inj (stops_cons separates (by decide))
      (stops_cons rfl stops) collides
    exact noColon ((List.cons.inj sameRest).1 ▸ separates)

/-- The token is the first one that breaks the grammar. The tokens before it begin a formula, but
not together with it, and at the end of the input they are no formula. -/
structure Breaks (before : List Token) (token : Token) : Prop where
  begins : Begins before
  notBegins : ¬ Begins (before ++ [token])
  noFormula : token.kind = .endOfInput →
    ∀ derivation : Derivation .formula, derivation.tokens ≠ before

/-- A token that is misplaced in a formula breaks the grammar. -/
theorem Misplaced.breaks {token : Token} {before : List Token}
    (misplaced : Misplaced .formula before token) : Breaks before token := by
  refine ⟨misplaced.begins, ?_, fun ends derivation isFormula => ?_⟩
  · rintro ⟨rest, derivation, equal⟩
    refine misplaced.blocks derivation [] rest (stops_nil _) ?_
    rw [List.append_nil, equal, List.append_assoc, List.singleton_append]
  · refine misplaced.blocks derivation [token] [] (stops_cons ends (by decide)) ?_
    rw [isFormula]

/-- Nothing may follow a whole formula that has stopped. -/
theorem breaks_of_stops (derivation : Derivation .formula) {token : Token}
    (stops : token.kind ∉ Phrase.formula.continuations) (notEnd : token.kind ≠ .endOfInput) :
    Breaks derivation.tokens token := by
  refine ⟨⟨[], derivation, by simp⟩, ?_, fun ends => absurd ends notEnd⟩
  rintro ⟨rest, other, equal⟩
  have collides : other.tokens ++ [] = derivation.tokens ++ token :: rest := by
    rw [List.append_nil, equal, List.append_assoc, List.singleton_append]
  have sameRest := (Derivation.append_inj (stops_nil _) (stops_cons rfl stops) collides).2
  contradiction

end Casework.Grammar
