import Casework.Formula.Grammar
import Casework.Proofs.Formula.Run

namespace Casework.Expression

open Grammar

/-- A tree fits when the formulas of its derivation are nested in at most the given count of
levels and the tree is not too deep. -/
def Fits (limit levels : Nat) (tree : Expression) : Prop :=
  levels ≤ limit ∧ tree.depth ≤ depthLimit

/-- A sound reader consumes the tokens of a phrase and finds the tree of the phrase. -/
def Reader.Sound (reader : Reader) (phrase : Phrase) (limit : Nat) : Prop :=
  ∀ tokens tree rest, reader.run tokens = .ok (tree, rest) →
    ∃ derivation : Derivation phrase, tokens = derivation.tokens ++ rest ∧
      derivation.tree? = some tree ∧ Fits limit derivation.levels tree

/-- A number alone is never too deep. -/
theorem depth_number_le (value : Binary64.Finite) :
    (Expression.number value).depth ≤ depthLimit := by
  change 1 ≤ 64
  decide

/-- A parameter alone is never too deep. -/
theorem depth_parameter_le (name : String) : (Expression.parameter name).depth ≤ depthLimit := by
  change 1 ≤ 64
  decide

/-- A number token is read as the literal that it denotes. -/
theorem readNumber_eq_ok_iff {token : Token} {value : Binary64.Finite} :
    readNumber token = .ok value ↔ literal? token.text = some value := by
  unfold readNumber literal?
  cases Decimal.read? token.text with
  | none => simp
  | some read => cases read <;> simp [Binary64.finite?]

/-- An operand is a number, a parameter, or a formula in parentheses. -/
theorem sound_readPrimary {finish : Token} {nested : Reader} {limit : Nat}
    (sound : nested.Sound .formula limit) :
    Reader.Sound (readPrimary finish nested) .operand limit := by
  intro tokens tree rest read
  cases tokens with
  | nil => simp at read
  | cons token others =>
      rw [run_readPrimary_cons] at read
      split at read
      · rename_i opens
        obtain ⟨⟨inner, left⟩, readInner, read⟩ := Except.bind_eq_ok_iff.mp read
        obtain ⟨after, closed, read⟩ := Except.bind_eq_ok_iff.mp read
        obtain ⟨closing, equal, closes⟩ := runSymbol_eq_ok_iff.mp closed
        cases read
        obtain ⟨derivation, consumed, hasTree, fits⟩ := sound others inner left readInner
        refine ⟨.parentheses token closing opens closes derivation, ?_, hasTree, fits⟩
        dsimp only at equal
        simp [Derivation.tokens, consumed, equal]
      · rename_i isNumber
        obtain ⟨value, readValue, read⟩ := Except.bind_eq_ok_iff.mp read
        cases read
        refine ⟨.number token isNumber, rfl, ?_, Nat.zero_le _, depth_number_le value⟩
        simp [Derivation.tree?, readNumber_eq_ok_iff.mp readValue]
      · rename_i isIdentifier
        cases read
        exact ⟨.parameter token isIdentifier, rfl, rfl, Nat.zero_le _, depth_parameter_le _⟩
      · contradiction

/-- A sign applies to the one operand after it. -/
theorem sound_readUnary {finish : Token} {nested : Reader} {limit : Nat}
    (sound : nested.Sound .formula limit) :
    Reader.Sound (readUnary finish nested) .signed limit := by
  intro tokens tree rest read
  cases tokens with
  | nil => simp at read
  | cons token others =>
      by_cases isMinus : token.kind = .minus
      · rw [run_readUnary_minus nested others isMinus] at read
        obtain ⟨⟨operand, left⟩, readOperand, read⟩ := Except.bind_eq_ok_iff.mp read
        obtain ⟨negation, limited, equal⟩ := Except.map_eq_ok_iff.mp read
        obtain ⟨rfl, shallow⟩ := limitDepth_eq_ok_iff.mp limited
        cases equal
        obtain ⟨derivation, consumed, hasTree, fits⟩ :=
          sound_readPrimary sound others operand left readOperand
        refine ⟨.negated token isMinus derivation, ?_, ?_, fits.1, shallow⟩
        · simp [Derivation.tokens, consumed]
        · simp [Derivation.tree?, hasTree]
      · rw [run_readUnary_other nested others isMinus] at read
        obtain ⟨derivation, consumed, hasTree, fits⟩ :=
          sound_readPrimary sound _ tree rest read
        exact ⟨.unsigned derivation, consumed, hasTree, fits⟩

/-- These are the operators of a rank as a reader recognizes them. -/
def rankOperator? : Rank → Token.Kind → Option Operator
  | .additive => additiveOperator?
  | .multiplicative => multiplicativeOperator?

/-- A reader recognizes exactly the tokens that stand for an operator of its rank. -/
theorem rankOperator_eq_some_iff {rank : Rank} {token : Token} {operator : Operator} :
    rankOperator? rank token.kind = some operator ↔
      operator ∈ rank.operators ∧ StandsFor token operator := by
  unfold StandsFor
  cases rank <;> cases token.kind <;> cases operator <;> decide +kernel

/-- The tokens begin with an operation that has the tree so far, and the last operand left the
tokens after it. -/
structure Progress (rank : Rank) (operand : Reader) (limit : Nat) (tokens : List Token)
    (state : Expression × List Token) : Prop where
  derives : ∃ before : Derivation (.operation rank), tokens = before.tokens ++ state.2 ∧
    before.tree? = some state.1 ∧ Fits limit before.levels state.1
  isLeft : ∃ earlier right, operand.run earlier = .ok (right, state.2)

section

variable {rank : Rank} {operand : Reader} {limit : Nat} {tokens : List Token}
  {state next : Expression × List Token}

/-- The first operand alone is an operation. -/
theorem Progress.first (sound : operand.Sound rank.item limit)
    (isFirst : operand.run tokens = .ok state) : Progress rank operand limit tokens state := by
  obtain ⟨item, consumed, hasTree, fits⟩ := sound tokens state.1 state.2 isFirst
  exact ⟨⟨.lone item, consumed, hasTree, fits⟩, tokens, state.1, isFirst⟩

/-- A turn of the loop makes progress. -/
theorem Progress.turn (sound : operand.Sound rank.item limit)
    (progress : Progress rank operand limit tokens state)
    (turn : Turn (rankOperator? rank) operand state next) :
    Progress rank operand limit tokens next := by
  obtain ⟨before, consumed, hasLeft, fits⟩ := progress.derives
  cases turn with
  | @mk left right token rest after operator goesOn isRight shallow =>
      obtain ⟨item, itemConsumed, hasRight, itemFits⟩ := sound rest right after isRight
      obtain ⟨ranked, stands⟩ := rankOperator_eq_some_iff.mp goesOn
      refine ⟨⟨.joined before token operator ranked stands item, ?_, ?_, ?_, shallow⟩,
        rest, right, isRight⟩
      · simp [Derivation.tokens, consumed, itemConsumed]
      · simp [Derivation.tree?, hasLeft, hasRight]
      · exact Nat.max_le.mpr ⟨fits.1, itemFits.1⟩

/-- Any number of turns keeps the progress. -/
theorem Progress.turns (sound : operand.Sound rank.item limit)
    (progress : Progress rank operand limit tokens state)
    (turns : Relation.ReflTransGen (Turn (rankOperator? rank) operand) state next) :
    Progress rank operand limit tokens next := by
  induction turns with
  | refl => exact progress
  | tail _ turn inductionHypothesis => exact inductionHypothesis.turn sound turn

/-- Operands are refused with the first of them, or there is progress up to the end of the loop. -/
theorem run_readOperands_cases (sound : operand.Sound rank.item limit) {outcome : Run}
    (isOutcome : Reader.run (readOperands (rankOperator? rank) operand) tokens = outcome) :
    (∃ error, operand.run tokens = .error error ∧ outcome = .error error) ∨
      ∃ last, Progress rank operand limit tokens last ∧
        Ends (rankOperator? rank) operand last outcome := by
  rw [run_readOperands] at isOutcome
  cases isFirst : operand.run tokens with
  | error error => exact .inl ⟨error, rfl, by rw [← isOutcome, isFirst]; rfl⟩
  | ok first =>
      obtain ⟨last, turns, ends⟩ :=
        exists_ends_of_runExtend (rankOperator? rank) operand first.1 first.2
      refine .inr ⟨last, (Progress.first sound isFirst).turns sound turns, ?_⟩
      rw [← isOutcome, isFirst]
      exact ends

end

/-- A sound reader of operands makes a sound reader of operations. -/
theorem sound_readOperands (rank : Rank) {operand : Reader} {limit : Nat}
    (sound : operand.Sound rank.item limit) :
    Reader.Sound (readOperands (rankOperator? rank) operand) (.operation rank) limit := by
  intro tokens tree rest read
  obtain ⟨_, _, contra⟩ | ⟨last, progress, ends⟩ := run_readOperands_cases sound read
  · contradiction
  · cases ends with
    | stopped => exact progress.derives

theorem sound_readAdditive {finish : Token} {nested : Reader} {limit : Nat}
    (sound : nested.Sound .formula limit) :
    Reader.Sound (readAdditive finish nested) (.operation .additive) limit :=
  sound_readOperands .additive (sound_readOperands .multiplicative (sound_readUnary sound))

/-- A conditional takes one level more than the formulas in it. -/
theorem sound_readTernary {finish : Token} {nested : Reader} {limit : Nat}
    (sound : nested.Sound .formula limit) :
    Reader.Sound (readTernary finish nested) .formula (limit + 1) := by
  intro tokens tree rest read
  rw [run_readTernary] at read
  obtain ⟨⟨conditionTree, after⟩, readCondition, read⟩ := Except.bind_eq_ok_iff.mp read
  obtain ⟨condition, consumed, hasCondition, fits⟩ :=
    sound_readAdditive sound tokens conditionTree after readCondition
  have alone : ∃ derivation : Derivation .formula, tokens = derivation.tokens ++ after ∧
      derivation.tree? = some conditionTree ∧ Fits (limit + 1) derivation.levels conditionTree :=
    ⟨.unconditional condition, consumed, hasCondition, Nat.succ_le_succ fits.1, fits.2⟩
  cases after with
  | nil =>
      cases read
      exact alone
  | cons token others =>
      simp only [runAfterCondition] at read
      split at read
      · rename_i asks
        unfold runBranches at read
        obtain ⟨⟨thenTree, afterThen⟩, readThen, read⟩ := Except.bind_eq_ok_iff.mp read
        obtain ⟨separated, isSeparated, read⟩ := Except.bind_eq_ok_iff.mp read
        obtain ⟨⟨elseTree, afterElse⟩, readElse, read⟩ := Except.bind_eq_ok_iff.mp read
        obtain ⟨conditional, limited, equal⟩ := Except.map_eq_ok_iff.mp read
        obtain ⟨rfl, shallow⟩ := limitDepth_eq_ok_iff.mp limited
        obtain ⟨colon, colonFirst, separates⟩ := runSymbol_eq_ok_iff.mp isSeparated
        cases equal
        obtain ⟨thenBranch, thenConsumed, hasThen, thenFits⟩ :=
          sound others thenTree afterThen readThen
        obtain ⟨elseBranch, elseConsumed, hasElse, elseFits⟩ :=
          sound separated elseTree afterElse readElse
        refine ⟨.conditional condition token colon asks separates thenBranch elseBranch,
          ?_, ?_, ?_, shallow⟩
        · dsimp only at colonFirst
          simp [Derivation.tokens, consumed, thenConsumed, colonFirst, elseConsumed]
        · simp [Derivation.tree?, hasCondition, hasThen, hasElse]
        · exact Nat.succ_le_succ (Nat.max_le.mpr ⟨fits.1, Nat.max_le.mpr ⟨thenFits.1, elseFits.1⟩⟩)
      · cases read
        exact alone

/-- A reader of nested formulas is sound for as many levels as it has. -/
theorem sound_readNested (finish : Token) (limit : Nat) :
    Reader.Sound (readNested finish limit) .formula limit := by
  induction limit with
  | zero =>
      intro tokens tree rest read
      simp at read
  | succ limit inductionHypothesis => exact sound_readTernary inductionHypothesis

end Casework.Expression
