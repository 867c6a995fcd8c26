import Casework.Proofs.Formula.Derivation
import Casework.Proofs.Formula.Soundness

namespace Casework.Expression

open Grammar

/-- Where an operation stops there is no operator of its rank. -/
theorem rankOperator_of_stops {rank : Rank} {token : Token} {rest : List Token}
    (stops : Stops (.operation rank) (token :: rest)) : rankOperator? rank token.kind = none := by
  have absent := stops token rfl
  revert absent
  cases rank <;> cases token.kind <;> decide

/-- A run settles a phrase when it finds the tree of a phrase that fits and refuses the nesting of
any other. -/
def Settles (fits : Prop) (run expected : Run) : Prop :=
  (fits ∧ run = expected) ∨ (¬ fits ∧ ∃ position, run = .error ⟨.nestedTooDeeply, position⟩)

/-- An exact reader settles every phrase that the tokens after it stop. -/
def Reader.Exact (reader : Reader) (phrase : Phrase) (limit : Nat) : Prop :=
  ∀ (derivation : Derivation phrase) (tree : Expression) (rest : List Token),
    derivation.tree? = some tree → Stops phrase rest →
      Settles (Fits limit derivation.levels tree) (reader.run (derivation.tokens ++ rest))
        (.ok (tree, rest))

/-- The operand of a tree that fits also fits. -/
theorem Fits.of_negate {limit levels : Nat} {operand : Expression}
    (fits : Fits limit levels operand.negate) : Fits limit levels operand := by
  refine ⟨fits.1, ?_⟩
  have shallow : 1 + operand.depth ≤ depthLimit := fits.2
  omega

/-- Both operands of a tree that fits also fit. -/
theorem Fits.of_binary {limit leftLevels rightLevels : Nat} {operator : Operator}
    {left right : Expression}
    (fits : Fits limit (max leftLevels rightLevels) (.binary operator left right)) :
    Fits limit leftLevels left ∧ Fits limit rightLevels right := by
  have levels := Nat.max_le.mp fits.1
  have shallow : 1 + max left.depth right.depth ≤ depthLimit := fits.2
  exact ⟨⟨levels.1, by omega⟩, ⟨levels.2, by omega⟩⟩

/-- The phrases of a conditional are nested one level deeper. -/
theorem Fits.of_conditional {limit conditionLevels thenLevels elseLevels : Nat}
    {condition thenBranch elseBranch : Expression}
    (fits : Fits (limit + 1) (max conditionLevels (max thenLevels elseLevels) + 1)
      (.conditional condition thenBranch elseBranch)) :
    Fits limit conditionLevels condition ∧ Fits limit thenLevels thenBranch ∧
      Fits limit elseLevels elseBranch := by
  have levels := Nat.le_of_succ_le_succ fits.1
  have shallow : 1 + max condition.depth (max thenBranch.depth elseBranch.depth) ≤ depthLimit :=
    fits.2
  exact ⟨⟨by omega, by omega⟩, ⟨by omega, by omega⟩, ⟨by omega, by omega⟩⟩

/-- A tree within the limit passes it. -/
theorem limitDepth_of_le {tree : Expression} {token : Token} (shallow : tree.depth ≤ depthLimit) :
    limitDepth tree token = .ok tree := if_pos shallow

/-- A deeper tree is refused at the token that is given with it. -/
theorem limitDepth_of_not_le {tree : Expression} {token : Token}
    (deep : ¬ tree.depth ≤ depthLimit) :
    limitDepth tree token = .error ⟨.nestedTooDeeply, token.position⟩ := if_neg deep

/-- A reader of operands settles every derivation of an operand. -/
theorem exact_readPrimary (finish : Token) {nested : Reader} {limit : Nat}
    (exactly : nested.Exact .formula limit) :
    Reader.Exact (readPrimary finish nested) .operand limit := by
  intro derivation tree rest hasTree _
  cases derivation with
  | number token isNumber =>
      obtain ⟨value, denotes, equal⟩ := Option.map_eq_some_iff.mp hasTree
      subst equal
      refine .inl ⟨⟨Nat.zero_le _, depth_number_le value⟩, ?_⟩
      change Reader.run _ (token :: rest) = _
      rw [run_readPrimary_cons, isNumber]
      dsimp only
      rw [readNumber_eq_ok_iff.mpr denotes]
      rfl
  | parameter token isIdentifier =>
      cases hasTree
      refine .inl ⟨⟨Nat.zero_le _, depth_parameter_le _⟩, ?_⟩
      change Reader.run _ (token :: rest) = _
      rw [run_readPrimary_cons, isIdentifier]
  | parentheses opening closing opens closes inner =>
      have split : (Derivation.parentheses opening closing opens closes inner).tokens ++ rest =
          opening :: (inner.tokens ++ closing :: rest) := by
        simp [Derivation.tokens]
      rw [split, run_readPrimary_cons, opens]
      rcases exactly inner tree (closing :: rest) hasTree (stops_cons closes (by decide)) with
        ⟨fits, run⟩ | ⟨deep, position, run⟩
      · refine .inl ⟨fits, ?_⟩
        dsimp only
        rw [run]
        change (runSymbol finish .rightParen (closing :: rest) >>= fun after =>
          .ok (tree, after)) = _
        rw [runSymbol_cons, if_pos closes]
        rfl
      · refine .inr ⟨deep, position, ?_⟩
        dsimp only
        rw [run]
        rfl

/-- An operand does not begin with a sign. -/
theorem run_readUnary_operand (finish : Token) (nested : Reader) (operand : Derivation .operand)
    (rest : List Token) :
    Reader.run (readUnary finish nested) (operand.tokens ++ rest) =
      Reader.run (readPrimary finish nested) (operand.tokens ++ rest) := by
  obtain ⟨token, others, begins, noMinus⟩ := operand.exists_head
  rw [begins]
  exact run_readUnary_other nested (others ++ rest) noMinus

/-- A reader of signed operands settles every derivation of one. -/
theorem exact_readUnary (finish : Token) {nested : Reader} {limit : Nat}
    (exactly : nested.Exact .formula limit) :
    Reader.Exact (readUnary finish nested) .signed limit := by
  intro derivation tree rest hasTree _
  cases derivation with
  | unsigned operand =>
      change Settles _ (Reader.run _ (operand.tokens ++ rest)) _
      rw [run_readUnary_operand]
      exact exact_readPrimary finish exactly operand tree rest hasTree (stops_operand rest)
  | negated minus isMinus operand =>
      obtain ⟨operandTree, hasOperand, equal⟩ := Option.map_eq_some_iff.mp hasTree
      subst equal
      change Settles _ (Reader.run _ (minus :: (operand.tokens ++ rest))) _
      rw [run_readUnary_minus nested _ isMinus]
      rcases exact_readPrimary finish exactly operand operandTree rest hasOperand
          (stops_operand rest) with ⟨fits, run⟩ | ⟨deep, position, run⟩
      · rw [run]
        by_cases shallow : operandTree.negate.depth ≤ depthLimit
        · refine .inl ⟨⟨fits.1, shallow⟩, ?_⟩
          change (limitDepth operandTree.negate minus).map _ = _
          rw [limitDepth_of_le shallow]
          rfl
        · refine .inr ⟨fun fits => shallow fits.2, minus.position, ?_⟩
          change (limitDepth operandTree.negate minus).map _ = _
          rw [limitDepth_of_not_le shallow]
          rfl
      · exact .inr ⟨fun fits => deep fits.of_negate, position, by rw [run]; rfl⟩

/-- What follows an operation is read by the loop, with the operation on its left. -/
theorem run_readOperands_append {rank : Rank} {operand : Reader} {limit : Nat}
    (exactly : operand.Exact rank.item limit) (derivation : Derivation (.operation rank))
    (tree : Expression) (rest : List Token) (hasTree : derivation.tree? = some tree)
    (stops : Stops rank.item rest) :
    Settles (Fits limit derivation.levels tree)
      (Reader.run (readOperands (rankOperator? rank) operand) (derivation.tokens ++ rest))
      (runExtend (rankOperator? rank) operand tree rest) := by
  induction derivation using Derivation.operation_induction generalizing tree rest with
  | lone item =>
      rw [run_readOperands]
      rcases exactly item tree rest hasTree stops with ⟨fits, run⟩ | ⟨deep, position, run⟩
      · exact .inl ⟨fits, by rw [Derivation.tokens, run]; rfl⟩
      · exact .inr ⟨deep, position, by rw [Derivation.tokens, run]; rfl⟩
  | joined left symbol operator ranked stands right inductionHypothesis =>
      obtain ⟨leftTree, hasLeft, found⟩ := Option.bind_eq_some_iff.mp hasTree
      obtain ⟨rightTree, hasRight, equal⟩ := Option.bind_eq_some_iff.mp found
      cases equal
      have split : (Derivation.joined left symbol operator ranked stands right).tokens ++ rest =
          left.tokens ++ symbol :: (right.tokens ++ rest) := by
        simp [Derivation.tokens]
      rw [split]
      -- The left operation is followed by the symbol, so the loop reads the right item next.
      rcases inductionHypothesis leftTree (symbol :: (right.tokens ++ rest)) hasLeft
          (stops_of_standsFor ranked stands) with ⟨leftFits, run⟩ | ⟨deep, position, run⟩
      · rw [run, runExtend_some operand leftTree _
          (rankOperator_eq_some_iff.mpr ⟨ranked, stands⟩)]
        rcases exactly right rightTree rest hasRight stops with
          ⟨rightFits, run⟩ | ⟨deep, position, run⟩
        · rw [run]
          by_cases shallow : (Expression.binary operator leftTree rightTree).depth ≤ depthLimit
          · refine .inl ⟨⟨Nat.max_le.mpr ⟨leftFits.1, rightFits.1⟩, shallow⟩, ?_⟩
            change (limitDepth (.binary operator leftTree rightTree) symbol >>= _) = _
            rw [limitDepth_of_le shallow]
            rfl
          · refine .inr ⟨fun fits => shallow fits.2, symbol.position, ?_⟩
            change (limitDepth (.binary operator leftTree rightTree) symbol >>= _) = _
            rw [limitDepth_of_not_le shallow]
            rfl
        · exact .inr ⟨fun fits => deep fits.of_binary.2, position, by rw [run]; rfl⟩
      · exact .inr ⟨fun fits => deep fits.of_binary.1, position, run⟩

/-- A loop leaves the tree as it is where no operator follows. -/
theorem runExtend_of_stops {rank : Rank} {tokens : List Token} (operand : Reader)
    (left : Expression) (stops : Stops (.operation rank) tokens) :
    runExtend (rankOperator? rank) operand left tokens = .ok (left, tokens) := by
  cases tokens with
  | nil => exact runExtend_nil ..
  | cons token rest => exact runExtend_none operand left rest (rankOperator_of_stops stops)

/-- A loop settles every derivation of an operation, from its first operand on. -/
theorem exact_readOperands (rank : Rank) {operand : Reader} {limit : Nat}
    (exactly : operand.Exact rank.item limit) :
    Reader.Exact (readOperands (rankOperator? rank) operand) (.operation rank) limit := by
  intro derivation tree rest hasTree stops
  rw [← runExtend_of_stops operand tree stops]
  exact run_readOperands_append exactly derivation tree rest hasTree stops.item

theorem exact_readAdditive (finish : Token) {nested : Reader} {limit : Nat}
    (exactly : nested.Exact .formula limit) :
    Reader.Exact (readAdditive finish nested) (.operation .additive) limit :=
  exact_readOperands .additive
    (exact_readOperands .multiplicative (exact_readUnary finish exactly))

/-- A condition stands alone where no question follows. -/
theorem runAfterCondition_of_stops {finish : Token} {tokens : List Token} (nested : Reader)
    (condition : Expression) (stops : Stops .formula tokens) :
    runAfterCondition finish nested condition tokens = .ok (condition, tokens) := by
  cases tokens with
  | nil => rfl
  | cons token rest =>
      refine if_neg fun isQuestion => stops token rfl ?_
      simp [isQuestion, Phrase.continuations]

/-- The three phrases of a conditional are read one after the other, and the first one that does not
fit is refused. -/
theorem exact_runBranches {finish question colon : Token} {nested : Reader} {limit : Nat}
    (exactly : nested.Exact .formula limit) (separates : colon.kind = .colon)
    {condition thenTree elseTree : Expression} {thenBranch elseBranch : Derivation .formula}
    {conditionLevels : Nat} {rest : List Token}
    (conditionFits : Fits limit conditionLevels condition)
    (hasThen : thenBranch.tree? = some thenTree) (hasElse : elseBranch.tree? = some elseTree)
    (stops : Stops .formula rest) :
    Settles (Fits (limit + 1)
        (max conditionLevels (max thenBranch.levels elseBranch.levels) + 1)
        (.conditional condition thenTree elseTree))
      (runBranches finish nested condition question
        (thenBranch.tokens ++ colon :: (elseBranch.tokens ++ rest)))
      (.ok (.conditional condition thenTree elseTree, rest)) := by
  unfold runBranches
  rcases exactly thenBranch thenTree (colon :: (elseBranch.tokens ++ rest)) hasThen
      (stops_cons separates (by decide)) with ⟨thenFits, run⟩ | ⟨deep, position, run⟩
  · rw [run]
    change Settles _ (runSymbol finish .colon (colon :: (elseBranch.tokens ++ rest)) >>= _) _
    rw [runSymbol_cons, if_pos separates]
    change Settles _ (nested.run (elseBranch.tokens ++ rest) >>= _) _
    rcases exactly elseBranch elseTree rest hasElse stops with
      ⟨elseFits, run⟩ | ⟨deep, position, run⟩
    · rw [run]
      change Settles _ ((limitDepth (.conditional condition thenTree elseTree) question).map _) _
      by_cases shallow : (Expression.conditional condition thenTree elseTree).depth ≤ depthLimit
      · rw [limitDepth_of_le shallow]
        exact .inl ⟨⟨Nat.succ_le_succ (Nat.max_le.mpr ⟨conditionFits.1,
          Nat.max_le.mpr ⟨thenFits.1, elseFits.1⟩⟩), shallow⟩, rfl⟩
      · rw [limitDepth_of_not_le shallow]
        exact .inr ⟨fun fits => shallow fits.2, question.position, rfl⟩
    · exact .inr ⟨fun fits => deep fits.of_conditional.2.2, position, by rw [run]; rfl⟩
  · exact .inr ⟨fun fits => deep fits.of_conditional.2.1, position, by rw [run]; rfl⟩

/-- A reader of conditionals settles every derivation of a formula, one level deeper. -/
theorem exact_readTernary {finish : Token} {nested : Reader} {limit : Nat}
    (exactly : nested.Exact .formula limit) :
    Reader.Exact (readTernary finish nested) .formula (limit + 1) := by
  intro derivation tree rest hasTree stops
  rw [run_readTernary]
  cases derivation with
  | unconditional sum =>
      rcases exact_readAdditive finish exactly sum tree rest hasTree
          (stops.weaken (by decide)) with ⟨fits, run⟩ | ⟨deep, position, run⟩
      · refine .inl ⟨⟨Nat.succ_le_succ fits.1, fits.2⟩, ?_⟩
        rw [Derivation.tokens, run]
        exact runAfterCondition_of_stops nested tree stops
      · refine .inr ⟨fun fits => deep ⟨Nat.le_of_succ_le_succ fits.1, fits.2⟩, position, ?_⟩
        rw [Derivation.tokens, run]
        rfl
  | conditional condition question colon asks separates thenBranch elseBranch =>
      obtain ⟨conditionTree, hasCondition, found⟩ := Option.bind_eq_some_iff.mp hasTree
      obtain ⟨thenTree, hasThen, found⟩ := Option.bind_eq_some_iff.mp found
      obtain ⟨elseTree, hasElse, equal⟩ := Option.bind_eq_some_iff.mp found
      cases equal
      have split : (Derivation.conditional condition question colon asks separates thenBranch
          elseBranch).tokens ++ rest = condition.tokens ++
            question :: (thenBranch.tokens ++ colon :: (elseBranch.tokens ++ rest)) := by
        simp [Derivation.tokens]
      rw [split]
      rcases exact_readAdditive finish exactly condition conditionTree
          (question :: (thenBranch.tokens ++ colon :: (elseBranch.tokens ++ rest))) hasCondition
          (stops_cons asks (by decide)) with ⟨fits, run⟩ | ⟨deep, position, run⟩
      · rw [run]
        change Settles _ (if question.kind = .question then _ else _) _
        rw [if_pos asks]
        exact exact_runBranches exactly separates fits hasThen hasElse stops
      · exact .inr ⟨fun fits => deep fits.of_conditional.1, position, by rw [run]; rfl⟩

/-- A reader of nested formulas is exact for as many levels as it has. -/
theorem exact_readNested (finish : Token) (limit : Nat) :
    Reader.Exact (readNested finish limit) .formula limit := by
  induction limit with
  | zero =>
      intro derivation tree rest hasTree stops
      refine .inr ⟨fun fits => ?_, _, run_readNested_zero finish _⟩
      exact Nat.not_le.mpr derivation.levels_pos fits.1
  | succ limit inductionHypothesis => exact exact_readTernary inductionHypothesis

end Casework.Expression
