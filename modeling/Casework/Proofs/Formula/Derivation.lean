import Casework.Formula.Grammar

namespace Casework.Grammar

/-- An operation is an item alone, or an item joined to an operation. -/
theorem Derivation.operation_induction {rank : Rank}
    {motive : Derivation (.operation rank) → Prop} (lone : ∀ item, motive (.lone item))
    (joined : ∀ left symbol operator ranked stands right, motive left →
      motive (.joined left symbol operator ranked stands right)) :
    ∀ derivation, motive derivation
  | .lone item => lone item
  | .joined left symbol operator ranked stands right =>
    joined left symbol operator ranked stands right (operation_induction lone joined left)

/-- These are the kinds of tokens that a reader of the phrase takes after the phrase. -/
def Phrase.continuations : Phrase → List Token.Kind
  | .formula => [.question, .plus, .minus, .star, .slash]
  | .operation .additive => [.plus, .minus, .star, .slash]
  | .operation .multiplicative => [.star, .slash]
  | .signed => []
  | .operand => []

/-- The phrase stops before the tokens. -/
def Stops (phrase : Phrase) (tokens : List Token) : Prop :=
  ∀ token ∈ tokens.head?, token.kind ∉ phrase.continuations

@[simp]
theorem stops_nil (phrase : Phrase) : Stops phrase [] := by simp [Stops]

/-- Nothing continues an operand. -/
@[simp]
theorem stops_operand (tokens : List Token) : Stops .operand tokens := by
  simp [Stops, Phrase.continuations]

theorem stops_cons {phrase : Phrase} {token : Token} {rest : List Token} {kind : Token.Kind}
    (isKind : token.kind = kind) (stops : kind ∉ phrase.continuations) :
    Stops phrase (token :: rest) := by
  intro first isFirst
  cases isFirst
  rwa [isKind]

/-- What stops a phrase stops every phrase with fewer continuations. -/
theorem Stops.weaken {phrase other : Phrase} {tokens : List Token} (stops : Stops phrase tokens)
    (subset : other.continuations ⊆ phrase.continuations) : Stops other tokens :=
  fun token isFirst continues => stops token isFirst (subset continues)

/-- What stops an operation stops its last operand. -/
theorem Stops.item {rank : Rank} {tokens : List Token} (stops : Stops (.operation rank) tokens) :
    Stops rank.item tokens :=
  stops.weaken (by cases rank <;> decide)

/-- An operator stops the items that it joins. -/
theorem stops_of_standsFor {rank : Rank} {symbol : Token} {operator : Operator}
    {rest : List Token} (ranked : operator ∈ rank.operators) (stands : StandsFor symbol operator) :
    Stops rank.item (symbol :: rest) := by
  refine stops_cons rfl ?_
  unfold StandsFor at stands
  revert ranked stands
  cases rank <;> cases symbol.kind <;> cases operator <;> decide

/-- No operand begins with a minus. -/
theorem Derivation.exists_head (operand : Derivation .operand) :
    ∃ token rest, operand.tokens = token :: rest ∧ token.kind ≠ .minus := by
  cases operand with
  | number token isNumber => exact ⟨token, [], rfl, by simp [isNumber]⟩
  | parameter token isIdentifier => exact ⟨token, [], rfl, by simp [isIdentifier]⟩
  | parentheses opening closing opens closes inner =>
      exact ⟨opening, inner.tokens ++ [closing], rfl, by simp [opens]⟩

/-- No token of a phrase ends the input. -/
theorem Derivation.kind_ne_endOfInput {phrase : Phrase} (derivation : Derivation phrase) :
    ∀ token ∈ derivation.tokens, token.kind ≠ .endOfInput := by
  induction derivation with
  | number token isNumber => simp [tokens, isNumber]
  | parameter token isIdentifier => simp [tokens, isIdentifier]
  | parentheses opening closing opens closes inner inductionHypothesis =>
      have last : ∀ token ∈ [closing], token.kind ≠ .endOfInput := by simp [closes]
      refine List.forall_mem_cons.mpr ⟨by simp [opens], ?_⟩
      exact List.forall_mem_append.mpr ⟨inductionHypothesis, last⟩
  | unsigned operand inductionHypothesis => exact inductionHypothesis
  | negated minus isMinus operand inductionHypothesis =>
      exact List.forall_mem_cons.mpr ⟨by simp [isMinus], inductionHypothesis⟩
  | lone item inductionHypothesis => exact inductionHypothesis
  | joined left symbol operator ranked stands right leftHypothesis rightHypothesis =>
      have isSymbol : symbol.kind ≠ .endOfInput := by
        intro ends
        rw [StandsFor, ends] at stands
        contradiction
      refine List.forall_mem_append.mpr ⟨leftHypothesis, ?_⟩
      exact List.forall_mem_cons.mpr ⟨isSymbol, rightHypothesis⟩
  | unconditional sum inductionHypothesis => exact inductionHypothesis
  | conditional condition question colon asks separates thenBranch elseBranch first second third =>
      refine List.forall_mem_append.mpr ⟨first, ?_⟩
      refine List.forall_mem_cons.mpr ⟨by simp [asks], ?_⟩
      refine List.forall_mem_append.mpr ⟨second, ?_⟩
      exact List.forall_mem_cons.mpr ⟨by simp [separates], third⟩

end Casework.Grammar
