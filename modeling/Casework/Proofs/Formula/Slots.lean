/-
This file says where phrases stand inside larger ones. The tokens before such a slot determine what
is there, so what holds of an inner phrase is followed to the whole slot by slot.
-/

import Casework.Proofs.Formula.Extent

namespace Casework.Grammar

/-- Only a phrase in parentheses begins with an opening one. -/
theorem exists_inner {opening : Token} (opens : opening.kind = .leftParen)
    {derivation : Derivation .operand} {rest tail : List Token}
    (equal : derivation.tokens ++ rest = opening :: tail) :
    ∃ (inner : Derivation .formula) (closing : Token) (closes : closing.kind = .rightParen),
      derivation = .parentheses opening closing opens closes inner ∧
        inner.tokens ++ closing :: rest = tail := by
  cases derivation with
  | number first isNumber =>
      rw [(List.cons.inj equal).1, opens] at isNumber
      contradiction
  | parameter first isIdentifier =>
      rw [(List.cons.inj equal).1, opens] at isIdentifier
      contradiction
  | parentheses first closing _ closes inner =>
      obtain ⟨rfl, sameTail⟩ := List.cons.inj equal
      refine ⟨inner, closing, closes, rfl, ?_⟩
      simpa [Derivation.tokens] using sameTail

/-- A signed phrase that begins with a minus is a negation. -/
theorem exists_negated {minus : Token} (isMinus : minus.kind = .minus)
    {derivation : Derivation .signed} {rest tail : List Token}
    (equal : derivation.tokens ++ rest = minus :: tail) :
    ∃ operand : Derivation .operand, derivation = .negated minus isMinus operand ∧
      operand.tokens ++ rest = tail := by
  cases derivation with
  | unsigned operand =>
      obtain ⟨first, others, begins, noMinus⟩ := operand.exists_head
      rw [Derivation.tokens, begins] at equal
      exact absurd ((List.cons.inj equal).1 ▸ isMinus) noMinus
  | negated first _ operand =>
      obtain ⟨rfl, sameTail⟩ := List.cons.inj equal
      exact ⟨operand, rfl, sameTail⟩

/-- A signed phrase that begins with any other token is an operand. -/
theorem exists_unsigned {first : Token} (noMinus : first.kind ≠ .minus)
    {derivation : Derivation .signed} {rest tail : List Token}
    (equal : derivation.tokens ++ rest = first :: tail) :
    ∃ operand : Derivation .operand, derivation = .unsigned operand := by
  cases derivation with
  | unsigned operand => exact ⟨operand, rfl⟩
  | negated minus isMinus operand => exact absurd ((List.cons.inj equal).1 ▸ isMinus) noMinus

/-- Steps that begin with an operator have a first step. -/
theorem exists_step {rank : Rank} {steps : List (Step rank)} {symbol : Token} {operator : Operator}
    (ranked : operator ∈ rank.operators) (stands : StandsFor symbol operator)
    {rest tail : List Token} (stops : Stops (.operation rank) rest)
    (goesOn : steps.flatMap Step.tokens ++ rest = symbol :: tail) :
    ∃ (step : Step rank) (others : List (Step rank)), steps = step :: others ∧
      step.symbol = symbol ∧ step.item.tokens ++ (others.flatMap Step.tokens ++ rest) = tail := by
  cases steps with
  | nil =>
      rw [List.flatMap_nil, List.nil_append] at goesOn
      exact absurd (goesOn ▸ stops) (not_stops_of_standsFor ranked stands)
  | cons step others =>
      rw [List.flatMap_cons, Step.tokens, List.append_assoc, List.cons_append] at goesOn
      obtain ⟨sameSymbol, sameTail⟩ := List.cons.inj goesOn
      exact ⟨step, others, rfl, sameSymbol, sameTail⟩

/-- An operation that goes on after its left part goes on in steps. -/
theorem exists_steps_after {rank : Rank} (left : Derivation (.operation rank))
    {derivation : Derivation (.operation rank)} {rest tail : List Token}
    (stops : Stops (.operation rank) rest) (tailStops : Stops rank.item tail)
    (equal : derivation.tokens ++ rest = left.tokens ++ tail) :
    ∃ steps : List (Step rank), derivation = left.followedBy steps ∧
      steps.flatMap Step.tokens ++ rest = tail := by
  induction left using Derivation.operation_induction generalizing tail with
  | lone item =>
      obtain ⟨first, steps, rfl, _⟩ := derivation.exists_steps
      rw [Derivation.tokens_followedBy, List.append_assoc] at equal
      obtain ⟨rfl, sameTail⟩ := Derivation.append_inj (stops_steps steps stops) tailStops equal
      exact ⟨steps, rfl, sameTail⟩
  | joined left symbol operator ranked stands right inductionHypothesis =>
      rw [Derivation.tokens, List.append_assoc, List.cons_append] at equal
      obtain ⟨steps, rfl, goesOn⟩ := inductionHypothesis (stops_of_standsFor ranked stands) equal
      obtain ⟨step, others, rfl, sameSymbol, goesOn⟩ := exists_step ranked stands stops goesOn
      obtain ⟨sameItem, sameTail⟩ :=
        Derivation.append_inj (stops_steps others stops) tailStops goesOn
      have isStep : step = ⟨symbol, operator, ranked, stands, right⟩ := by
        have sameOperator := operator_of_standsFor (sameSymbol ▸ step.stands) stands
        cases step
        simp_all
      exact ⟨others, by rw [isStep]; rfl, sameTail⟩

/-- An operation that goes on with an operator after its left part goes on with a step. -/
theorem exists_step_after {rank : Rank} (left : Derivation (.operation rank)) {symbol : Token}
    {operator : Operator} (ranked : operator ∈ rank.operators) (stands : StandsFor symbol operator)
    {derivation : Derivation (.operation rank)} {rest tail : List Token}
    (stops : Stops (.operation rank) rest)
    (equal : derivation.tokens ++ rest = left.tokens ++ symbol :: tail) :
    ∃ (step : Step rank) (others : List (Step rank)),
      derivation = left.followedBy (step :: others) ∧
        step.item.tokens ++ (others.flatMap Step.tokens ++ rest) = tail := by
  obtain ⟨steps, rfl, goesOn⟩ :=
    exists_steps_after left stops (stops_of_standsFor ranked stands) equal
  obtain ⟨step, others, rfl, _, sameTail⟩ := exists_step ranked stands stops goesOn
  exact ⟨step, others, rfl, sameTail⟩

/-- A formula that goes on with a question mark after its condition has two branches. -/
theorem exists_branches (condition : Derivation (.operation .additive)) {question : Token}
    (asks : question.kind = .question) {derivation : Derivation .formula}
    {rest tail : List Token} (stops : Stops .formula rest)
    (equal : derivation.tokens ++ rest = condition.tokens ++ question :: tail) :
    ∃ (thenBranch elseBranch : Derivation .formula) (colon : Token)
      (separates : colon.kind = .colon),
      derivation = .conditional condition question colon asks separates thenBranch elseBranch ∧
        thenBranch.tokens ++ colon :: (elseBranch.tokens ++ rest) = tail := by
  cases derivation with
  | unconditional sum =>
      have sumStops : Stops (.operation .additive) rest := stops.weaken (by decide)
      have questionStops : Stops (.operation .additive) (question :: tail) :=
        stops_cons asks (by decide)
      obtain ⟨_, rfl⟩ := Derivation.append_inj sumStops questionStops equal
      exact absurd (stops question rfl) (by simp [asks, Phrase.continuations])
  | conditional first other colon otherAsks separates thenBranch elseBranch =>
      rw [Derivation.tokens, List.append_assoc, List.cons_append] at equal
      obtain ⟨rfl, sameRest⟩ := Derivation.append_inj (stops_cons otherAsks (by decide))
        (stops_cons asks (by decide)) equal
      obtain ⟨rfl, sameTail⟩ := List.cons.inj sameRest
      refine ⟨thenBranch, elseBranch, colon, separates, rfl, ?_⟩
      simpa using sameTail

/-- A conditional that goes on after a colon has its second branch there. -/
theorem exists_elseBranch (condition : Derivation (.operation .additive)) {question colon : Token}
    (asks : question.kind = .question) (thenBranch : Derivation .formula)
    (separates : colon.kind = .colon) {derivation : Derivation .formula} {rest tail : List Token}
    (stops : Stops .formula rest)
    (equal : derivation.tokens ++ rest =
      condition.tokens ++ question :: (thenBranch.tokens ++ colon :: tail)) :
    ∃ elseBranch : Derivation .formula,
      derivation = .conditional condition question colon asks separates thenBranch elseBranch ∧
        elseBranch.tokens ++ rest = tail := by
  obtain ⟨second, elseBranch, other, otherSeparates, rfl, sameBranches⟩ :=
    exists_branches condition asks stops equal
  have noColon : Token.Kind.colon ∉ Phrase.formula.continuations := by decide
  obtain ⟨rfl, sameRest⟩ := Derivation.append_inj (stops_cons otherSeparates noColon)
    (stops_cons separates noColon) sameBranches
  obtain ⟨rfl, sameTail⟩ := List.cons.inj sameRest
  exact ⟨elseBranch, rfl, sameTail⟩

/-- A parameter completes whatever lacks an operand. -/
def someParameter : Derivation .operand := .parameter ⟨.identifier, "x", 0⟩ rfl

def someFormula : Derivation .formula := .unconditional (.lone (.lone (.unsigned someParameter)))

/-- The tokens are the front of a phrase. -/
def Fronts (phrase : Phrase) (tokens : List Token) : Prop :=
  ∃ (rest : List Token) (derivation : Derivation phrase), derivation.tokens = tokens ++ rest

/-- The inner phrase has its place in the phrase after the consumed tokens. Whatever begins it may
stand there, and every phrase that goes on after these tokens has an inner phrase there, which is
not higher and has fewer levels by the given count. -/
structure Slot (phrase inner : Phrase) (consumed : List Token) (levels : Nat) : Prop where
  fronts : ∀ front, Fronts inner front → Fronts phrase (consumed ++ front)
  exists_part : ∀ (whole : Derivation phrase) (rest tail : List Token), Stops phrase rest →
    whole.tokens ++ rest = consumed ++ tail →
      ∃ (part : Derivation inner) (after : List Token), Stops inner after ∧
        part.tokens ++ after = tail ∧ part.levels + levels ≤ whole.levels ∧
          part.height ≤ whole.height

section

variable {rank : Rank} {opening minus symbol question colon : Token} {operator : Operator}

/-- A formula has its place behind an opening parenthesis. -/
theorem slot_parentheses (opens : opening.kind = .leftParen) :
    Slot .operand .formula [opening] 0 := by
  refine ⟨fun front fronts => ?_, fun whole rest tail _ equal => ?_⟩
  · obtain ⟨rest, derivation, equal⟩ := fronts
    refine ⟨rest ++ [⟨.rightParen, ")", 0⟩],
      .parentheses opening ⟨.rightParen, ")", 0⟩ opens rfl derivation, ?_⟩
    simp [Derivation.tokens, equal]
  · obtain ⟨inner, closing, closes, rfl, sameTail⟩ := exists_inner opens equal
    exact ⟨inner, _, stops_cons closes (by decide), sameTail, Nat.le_refl _, Nat.le_refl _⟩

/-- An operand has its place behind a minus sign. -/
theorem slot_negated (isMinus : minus.kind = .minus) : Slot .signed .operand [minus] 0 := by
  refine ⟨fun front fronts => ?_, fun whole rest tail _ equal => ?_⟩
  · obtain ⟨rest, derivation, equal⟩ := fronts
    exact ⟨rest, .negated minus isMinus derivation, congrArg (minus :: ·) equal⟩
  · obtain ⟨operand, rfl, sameTail⟩ := exists_negated isMinus equal
    exact ⟨operand, rest, stops_operand _, sameTail, Nat.le_refl _, Nat.le_add_left _ _⟩

/-- The first operand has its place at the front of an operation. -/
theorem slot_first (rank : Rank) : Slot (.operation rank) rank.item [] 0 := by
  refine ⟨fun front fronts => ?_, fun whole rest tail stops equal => ?_⟩
  · obtain ⟨rest, derivation, equal⟩ := fronts
    exact ⟨rest, .lone derivation, equal⟩
  · obtain ⟨item, steps, rfl, _⟩ := whole.exists_steps
    rw [Derivation.tokens_followedBy, List.append_assoc] at equal
    obtain ⟨levels, height⟩ := Derivation.le_followedBy (.lone item) steps
    exact ⟨item, _, stops_steps steps stops, equal, levels, height⟩

/-- An operand has its place behind each operator of an operation. -/
theorem slot_next (left : Derivation (.operation rank)) (ranked : operator ∈ rank.operators)
    (stands : StandsFor symbol operator) :
    Slot (.operation rank) rank.item (left.tokens ++ [symbol]) 0 := by
  refine ⟨fun front fronts => ?_, fun whole rest tail stops equal => ?_⟩
  · obtain ⟨rest, derivation, equal⟩ := fronts
    refine ⟨rest, .joined left symbol operator ranked stands derivation, ?_⟩
    simp [Derivation.tokens, equal]
  · rw [List.append_assoc] at equal
    obtain ⟨step, others, rfl, sameTail⟩ := exists_step_after left ranked stands stops equal
    obtain ⟨levels, height⟩ := Derivation.item_le_followedBy left step others
    exact ⟨step.item, _, stops_steps others stops, sameTail, levels, by omega⟩

/-- The condition has its place at the front of a formula, which has one level more. -/
theorem slot_condition : Slot .formula (.operation .additive) [] 1 := by
  refine ⟨fun front fronts => ?_, fun whole rest tail stops equal => ?_⟩
  · obtain ⟨rest, derivation, equal⟩ := fronts
    exact ⟨rest, .unconditional derivation, equal⟩
  · cases whole with
    | unconditional sum =>
        exact ⟨sum, rest, stops.weaken (by decide), equal, Nat.le_refl _, Nat.le_refl _⟩
    | conditional condition question colon asks separates thenBranch elseBranch =>
        rw [Derivation.tokens, List.append_assoc] at equal
        refine ⟨condition, _, stops_cons asks (by decide), equal, ?_, ?_⟩
        · exact Nat.succ_le_succ (Nat.le_max_left _ _)
        · exact Nat.le_trans (Nat.le_max_left _ _) (Nat.le_add_left _ _)

/-- The first branch has its place behind the question mark. -/
theorem slot_thenBranch (condition : Derivation (.operation .additive))
    (asks : question.kind = .question) :
    Slot .formula .formula (condition.tokens ++ [question]) 1 := by
  refine ⟨fun front fronts => ?_, fun whole rest tail stops equal => ?_⟩
  · obtain ⟨rest, derivation, equal⟩ := fronts
    refine ⟨rest ++ ⟨.colon, ":", 0⟩ :: someFormula.tokens, .conditional condition question
      ⟨.colon, ":", 0⟩ asks rfl derivation someFormula, ?_⟩
    simp [Derivation.tokens, equal]
  · rw [List.append_assoc] at equal
    obtain ⟨thenBranch, elseBranch, colon, separates, rfl, sameTail⟩ :=
      exists_branches condition asks stops equal
    refine ⟨thenBranch, _, stops_cons separates (by decide), sameTail, ?_, ?_⟩
    · show thenBranch.levels + 1 ≤
        max condition.levels (max thenBranch.levels elseBranch.levels) + 1
      omega
    · show thenBranch.height ≤ 1 + max condition.height (max thenBranch.height elseBranch.height)
      omega

/-- The second branch has its place behind the colon. -/
theorem slot_elseBranch (condition : Derivation (.operation .additive))
    (asks : question.kind = .question) (thenBranch : Derivation .formula)
    (separates : colon.kind = .colon) :
    Slot .formula .formula (condition.tokens ++ question :: (thenBranch.tokens ++ [colon])) 1 := by
  refine ⟨fun front fronts => ?_, fun whole rest tail stops equal => ?_⟩
  · obtain ⟨rest, derivation, equal⟩ := fronts
    refine ⟨rest, .conditional condition question colon asks separates thenBranch derivation, ?_⟩
    simp [Derivation.tokens, equal]
  · rw [List.append_assoc, List.cons_append, List.append_assoc] at equal
    obtain ⟨elseBranch, rfl, sameTail⟩ :=
      exists_elseBranch condition asks thenBranch separates stops equal
    refine ⟨elseBranch, rest, stops, sameTail, ?_, ?_⟩
    · show elseBranch.levels + 1 ≤
        max condition.levels (max thenBranch.levels elseBranch.levels) + 1
      omega
    · show elseBranch.height ≤ 1 + max condition.height (max thenBranch.height elseBranch.height)
      omega

end

/-- A phrase is at least as high as a phrase at its front, which may go on there. -/
theorem Derivation.height_le_of_append {phrase : Phrase} {part whole : Derivation phrase}
    {rest after : List Token} (stops : Stops phrase rest)
    (equal : whole.tokens ++ rest = part.tokens ++ after) : part.height ≤ whole.height := by
  -- nothing stops the part, so it only determines the whole up to its own last phrase
  induction part generalizing rest after with
  | number token isNumber => exact whole.height_pos
  | parameter token isIdentifier => exact whole.height_pos
  | parentheses opening closing opens closes inner inductionHypothesis =>
      rw [tokens, List.cons_append, List.append_assoc] at equal
      obtain ⟨other, last, ends, rfl, sameInner⟩ := exists_inner opens equal
      exact inductionHypothesis (stops_cons ends (by decide)) sameInner
  | unsigned operand inductionHypothesis =>
      obtain ⟨first, others, begins, noMinus⟩ := operand.exists_head
      obtain ⟨other, rfl⟩ : ∃ other, whole = .unsigned other :=
        exists_unsigned noMinus (equal.trans (congrArg (· ++ after) begins))
      exact inductionHypothesis (stops_operand _) equal
  | negated minus isMinus operand inductionHypothesis =>
      obtain ⟨other, rfl, sameOperand⟩ := exists_negated isMinus equal
      exact Nat.add_le_add_left (inductionHypothesis (stops_operand _) sameOperand) 1
  | @lone rank item inductionHypothesis =>
      obtain ⟨first, others, firstStops, sameItem, _, lower⟩ :=
        (slot_first rank).exists_part whole rest _ stops equal
      exact Nat.le_trans (inductionHypothesis firstStops sameItem) lower
  | joined left symbol operator ranked stands right _ rightHypothesis =>
      rw [tokens, List.append_assoc, List.cons_append] at equal
      obtain ⟨step, others, rfl, sameItem⟩ := exists_step_after left ranked stands stops equal
      have higher := rightHypothesis (stops_steps others stops) sameItem
      have whole := (item_le_followedBy left step others).2
      show 1 + max left.height right.height ≤ _
      omega
  | unconditional sum inductionHypothesis =>
      obtain ⟨condition, others, conditionStops, sameSum, _, lower⟩ :=
        slot_condition.exists_part whole rest _ stops equal
      exact Nat.le_trans (inductionHypothesis conditionStops sameSum) lower
  | conditional condition question colon asks separates thenBranch elseBranch _ _ third =>
      rw [tokens, List.append_assoc, List.cons_append, List.append_assoc] at equal
      obtain ⟨other, rfl, sameElse⟩ :=
        exists_elseBranch condition asks thenBranch separates stops equal
      have higher := third stops sameElse
      show 1 + max condition.height (max thenBranch.height elseBranch.height) ≤
        1 + max condition.height (max thenBranch.height other.height)
      omega

end Casework.Grammar
