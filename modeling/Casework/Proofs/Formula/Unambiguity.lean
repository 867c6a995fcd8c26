import Casework.Proofs.Formula.Derivation

namespace Casework.Grammar

/-- The tokens of a phrase with at most the given count of levels determine its derivation and
where it ends, when both ends stop the phrase. -/
def Determined (phrase : Phrase) (limit : Nat) : Prop :=
  ∀ (first second : Derivation phrase) (firstRest secondRest : List Token),
    first.levels ≤ limit → Stops phrase firstRest → Stops phrase secondRest →
      first.tokens ++ firstRest = second.tokens ++ secondRest →
        first = second ∧ firstRest = secondRest

/-- The first token of an operand tells which kind of operand it is. -/
theorem determined_operand {limit : Nat} (determined : Determined .formula limit) :
    Determined .operand limit := by
  intro first second firstRest secondRest bounded _ _ equal
  cases first with
  | number token isNumber =>
      cases second <;> simp [Derivation.tokens] at equal
      case number => exact ⟨by simp [equal.1], equal.2⟩
      all_goals grind
  | parameter token isIdentifier =>
      cases second <;> simp [Derivation.tokens] at equal
      case parameter => exact ⟨by simp [equal.1], equal.2⟩
      all_goals grind
  | parentheses opening closing opens closes inner =>
      cases second <;> simp [Derivation.tokens] at equal
      case parentheses other last _ ends innerOther =>
        obtain ⟨sameInner, sameRest⟩ := determined inner innerOther _ _ bounded
          (stops_cons closes (by decide)) (stops_cons ends (by decide)) equal.2
        cases sameRest
        exact ⟨by simp [equal.1, sameInner], rfl⟩
      all_goals grind

/-- An operand has no sign of its own, so the first token tells whether there is one. -/
theorem determined_signed {limit : Nat} (determined : Determined .formula limit) :
    Determined .signed limit := by
  intro first second firstRest secondRest bounded _ _ equal
  have operands := determined_operand determined
  cases first with
  | unsigned operand =>
      cases second with
      | unsigned other =>
          obtain ⟨same, sameRest⟩ := operands operand other firstRest secondRest bounded
            (stops_operand _) (stops_operand _) equal
          exact ⟨by rw [same], sameRest⟩
      | negated minus isMinus other =>
          obtain ⟨token, rest, begins, noMinus⟩ := operand.exists_head
          simp only [Derivation.tokens, begins, List.cons_append, List.cons.injEq] at equal
          exact absurd (equal.1 ▸ isMinus) noMinus
  | negated minus isMinus operand =>
      cases second with
      | unsigned other =>
          obtain ⟨token, rest, begins, noMinus⟩ := other.exists_head
          simp only [Derivation.tokens, begins, List.cons_append, List.cons.injEq] at equal
          exact absurd (equal.1 ▸ isMinus) noMinus
      | negated otherMinus _ other =>
          simp only [Derivation.tokens, List.cons_append, List.cons.injEq] at equal
          obtain ⟨same, sameRest⟩ := operands operand other firstRest secondRest bounded
            (stops_operand _) (stops_operand _) equal.2
          exact ⟨by simp [equal.1, same], sameRest⟩

/-- A step joins one more item to an operation. -/
structure Step (rank : Rank) where
  symbol : Token
  operator : Operator
  ranked : operator ∈ rank.operators
  stands : StandsFor symbol operator
  item : Derivation rank.item

def Step.tokens {rank : Rank} (step : Step rank) : List Token := step.symbol :: step.item.tokens

def Derivation.followedBy {rank : Rank} (left : Derivation (.operation rank))
    (steps : List (Step rank)) : Derivation (.operation rank) :=
  steps.foldl (fun left step =>
    .joined left step.symbol step.operator step.ranked step.stands step.item) left

/-- The tokens of the steps come after those of the operation. -/
theorem Derivation.tokens_followedBy {rank : Rank} (left : Derivation (.operation rank))
    (steps : List (Step rank)) :
    (left.followedBy steps).tokens = left.tokens ++ steps.flatMap Step.tokens := by
  induction steps generalizing left with
  | nil => simp [followedBy]
  | cons step rest inductionHypothesis =>
      change (Derivation.followedBy _ rest).tokens = _
      rw [inductionHypothesis]
      simp [Derivation.tokens, Step.tokens]

/-- An operation is its first item, followed by the steps that join the others. -/
theorem Derivation.exists_steps {rank : Rank} (derivation : Derivation (.operation rank)) :
    ∃ (first : Derivation rank.item) (steps : List (Step rank)),
      derivation = (Derivation.lone first).followedBy steps ∧
        first.levels ≤ derivation.levels ∧
          ∀ step ∈ steps, step.item.levels ≤ derivation.levels := by
  induction derivation using Derivation.operation_induction with
  | lone item => exact ⟨item, [], rfl, Nat.le_refl _, by simp⟩
  | joined left symbol operator ranked stands right inductionHypothesis =>
      obtain ⟨first, steps, equal, firstBounded, stepsBounded⟩ := inductionHypothesis
      refine ⟨first, steps ++ [⟨symbol, operator, ranked, stands, right⟩], ?_,
        Nat.le_trans firstBounded (Nat.le_max_left _ _), ?_⟩
      · simp [equal, followedBy]
      · intro step isStep
        rcases List.mem_append.mp isStep with earlier | last
        · exact Nat.le_trans (stepsBounded step earlier) (Nat.le_max_left _ _)
        · rw [List.mem_singleton.mp last]
          exact Nat.le_max_right _ _

/-- A token stands for at most one operator. -/
theorem operator_of_standsFor {token : Token} {first second : Operator}
    (standsFirst : StandsFor token first) (standsSecond : StandsFor token second) :
    first = second := by
  unfold StandsFor at standsFirst standsSecond
  rw [standsFirst] at standsSecond
  revert standsSecond
  cases first <;> cases second <;> decide

/-- An operator goes on with an operation of its own rank. -/
theorem not_stops_of_standsFor {rank : Rank} {symbol : Token} {operator : Operator}
    {rest : List Token} (ranked : operator ∈ rank.operators) (stands : StandsFor symbol operator) :
    ¬ Stops (.operation rank) (symbol :: rest) := by
  intro stops
  have absent := stops symbol rfl
  unfold StandsFor at stands
  revert ranked stands absent
  cases rank <;> cases symbol.kind <;> cases operator <;> decide

/-- After an operand comes an operator or what stops the operation. -/
theorem stops_steps {rank : Rank} {rest : List Token} (steps : List (Step rank))
    (stops : Stops (.operation rank) rest) :
    Stops rank.item (steps.flatMap Step.tokens ++ rest) := by
  cases steps with
  | nil => exact stops.item
  | cons step others => exact stops_of_standsFor step.ranked step.stands

/-- The same tokens are cut into the same steps. -/
theorem determined_steps {rank : Rank} {limit : Nat} (determined : Determined rank.item limit)
    (first second : List (Step rank)) (firstRest secondRest : List Token)
    (bounded : ∀ step ∈ first, step.item.levels ≤ limit)
    (firstStops : Stops (.operation rank) firstRest)
    (secondStops : Stops (.operation rank) secondRest)
    (equal : first.flatMap Step.tokens ++ firstRest = second.flatMap Step.tokens ++ secondRest) :
    first = second ∧ firstRest = secondRest := by
  induction first generalizing second with
  | nil =>
      cases second with
      | nil => exact ⟨rfl, equal⟩
      | cons step others =>
          change firstRest = step.symbol :: _ at equal
          rw [equal] at firstStops
          exact absurd firstStops (not_stops_of_standsFor step.ranked step.stands)
  | cons step rest inductionHypothesis =>
      cases second with
      | nil =>
          change step.symbol :: _ = secondRest at equal
          rw [← equal] at secondStops
          exact absurd secondStops (not_stops_of_standsFor step.ranked step.stands)
      | cons other others =>
          simp only [List.flatMap_cons, Step.tokens, List.cons_append, List.append_assoc,
            List.cons.injEq] at equal
          obtain ⟨sameItem, remaining⟩ := determined step.item other.item _ _
            (bounded step (by simp)) (stops_steps rest firstStops)
            (stops_steps others secondStops) equal.2
          obtain ⟨sameSteps, sameRest⟩ := inductionHypothesis others
            (fun member isMember => bounded member (List.mem_cons_of_mem _ isMember)) remaining
          have sameOperator : step.operator = other.operator :=
            operator_of_standsFor step.stands (equal.1 ▸ other.stands)
          have sameStep : step = other := by
            cases step
            cases other
            simp_all
          exact ⟨by rw [sameStep, sameSteps], sameRest⟩

/-- An operation is its first operand and its steps, and both are determined. -/
theorem determined_operation (rank : Rank) {limit : Nat}
    (determined : Determined rank.item limit) : Determined (.operation rank) limit := by
  intro first second firstRest secondRest bounded firstStops secondStops equal
  obtain ⟨firstItem, firstSteps, firstEqual, itemBounded, stepsBounded⟩ := first.exists_steps
  obtain ⟨secondItem, secondSteps, secondEqual, _, _⟩ := second.exists_steps
  rw [firstEqual, secondEqual, Derivation.tokens_followedBy, Derivation.tokens_followedBy,
    List.append_assoc, List.append_assoc] at equal
  obtain ⟨sameItem, remaining⟩ := determined firstItem secondItem _ _
    (Nat.le_trans itemBounded bounded) (stops_steps firstSteps firstStops)
    (stops_steps secondSteps secondStops) equal
  obtain ⟨sameSteps, sameRest⟩ := determined_steps determined firstSteps secondSteps firstRest
    secondRest (fun step isStep => Nat.le_trans (stepsBounded step isStep) bounded) firstStops
    secondStops remaining
  exact ⟨by rw [firstEqual, secondEqual, sameItem, sameSteps], sameRest⟩

theorem determined_additive {limit : Nat} (determined : Determined .formula limit) :
    Determined (.operation .additive) limit :=
  determined_operation .additive
    (determined_operation .multiplicative (determined_signed determined))

/-- Formulas are determined on every level, by induction on the levels. -/
theorem determined_formula (limit : Nat) : Determined .formula limit := by
  induction limit with
  | zero =>
      intro first _ _ _ bounded
      exact absurd bounded (Nat.not_le.mpr first.levels_pos)
  | succ limit inductionHypothesis =>
      intro first second firstRest secondRest bounded firstStops secondStops equal
      have sums := determined_additive inductionHypothesis
      cases first with
      | unconditional sum =>
          have sumBounded : sum.levels ≤ limit := Nat.le_of_succ_le_succ bounded
          cases second with
          | unconditional other =>
              obtain ⟨same, sameRest⟩ := sums sum other firstRest secondRest sumBounded
                (firstStops.weaken (by decide)) (secondStops.weaken (by decide)) equal
              exact ⟨by rw [same], sameRest⟩
          | conditional condition question colon asks separates thenBranch elseBranch =>
              simp only [Derivation.tokens, List.append_assoc, List.cons_append] at equal
              obtain ⟨_, sameRest⟩ := sums sum condition firstRest _ sumBounded
                (firstStops.weaken (by decide)) (stops_cons asks (by decide)) equal
              rw [sameRest] at firstStops
              exact absurd (firstStops question rfl) (by simp [asks, Phrase.continuations])
      | conditional condition question colon asks separates thenBranch elseBranch =>
          have levels : max condition.levels (max thenBranch.levels elseBranch.levels) ≤ limit :=
            Nat.le_of_succ_le_succ bounded
          cases second with
          | unconditional other =>
              simp only [Derivation.tokens, List.append_assoc, List.cons_append] at equal
              obtain ⟨_, sameRest⟩ := sums condition other _ secondRest (by omega)
                (stops_cons asks (by decide)) (secondStops.weaken (by decide)) equal
              rw [← sameRest] at secondStops
              exact absurd (secondStops question rfl) (by simp [asks, Phrase.continuations])
          | conditional other otherQuestion otherColon otherAsks otherSeparates otherThen
              otherElse =>
              simp only [Derivation.tokens, List.append_assoc, List.cons_append] at equal
              obtain ⟨sameCondition, remaining⟩ := sums condition other _ _ (by omega)
                (stops_cons asks (by decide)) (stops_cons otherAsks (by decide)) equal
              obtain ⟨sameQuestion, remaining⟩ := List.cons.inj remaining
              obtain ⟨sameThen, remaining⟩ := inductionHypothesis thenBranch otherThen _ _
                (by omega) (stops_cons separates (by decide))
                (stops_cons otherSeparates (by decide)) remaining
              obtain ⟨sameColon, remaining⟩ := List.cons.inj remaining
              obtain ⟨sameElse, sameRest⟩ := inductionHypothesis elseBranch otherElse firstRest
                secondRest (by omega) firstStops secondStops remaining
              exact ⟨by simp [sameCondition, sameQuestion, sameThen, sameColon, sameElse], sameRest⟩

/-- The tokens of a phrase determine its derivation and where it ends. -/
theorem determined (phrase : Phrase) (limit : Nat) : Determined phrase limit := by
  have formulas := determined_formula limit
  have products := determined_operation .multiplicative (determined_signed formulas)
  match phrase with
  | .formula => exact formulas
  | .operation .additive => exact determined_operation .additive products
  | .operation .multiplicative => exact products
  | .signed => exact determined_signed formulas
  | .operand => exact determined_operand formulas

/-- A phrase and the tokens that stop it are determined by all the tokens. -/
theorem Derivation.append_inj {phrase : Phrase} {first second : Derivation phrase}
    {firstRest secondRest : List Token} (firstStops : Stops phrase firstRest)
    (secondStops : Stops phrase secondRest)
    (equal : first.tokens ++ firstRest = second.tokens ++ secondRest) :
    first = second ∧ firstRest = secondRest :=
  determined phrase first.levels first second firstRest secondRest (Nat.le_refl _) firstStops
    secondStops equal

/-- A formula has one derivation. -/
theorem Derivation.eq_of_tokens_eq {first second : Derivation .formula}
    (equal : first.tokens = second.tokens) : first = second := by
  refine (determined_formula first.levels first second [] [] (Nat.le_refl _) (stops_nil _)
    (stops_nil _) ?_).1
  rw [equal]

end Casework.Grammar
