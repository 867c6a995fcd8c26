import Casework.Proofs.Formula.Exactness
import Casework.Proofs.Formula.Misplacement

namespace Casework.Expression

open Grammar

/-- A halting reader leaves tokens that stop its phrase. -/
def Reader.Halts (reader : Reader) (phrase : Phrase) : Prop :=
  ∀ tokens tree rest, reader.run tokens = .ok (tree, rest) → Stops phrase rest

/-- A token without an operator of the rank ends an operation when it ends an operand. -/
theorem stops_operation {rank : Rank} {token : Token} {rest : List Token}
    (ends : rankOperator? rank token.kind = none) (stops : Stops rank.item (token :: rest)) :
    Stops (.operation rank) (token :: rest) := by
  refine stops_cons rfl ?_
  have itemStops := stops token rfl
  revert ends itemStops
  cases rank <;> cases token.kind <;> decide

/-- Where a loop stops no operation of its rank goes on. -/
theorem halts_readOperands (rank : Rank) {operand : Reader} {limit : Nat}
    (sound : operand.Sound rank.item limit) (halts : operand.Halts rank.item) :
    Reader.Halts (readOperands (rankOperator? rank) operand) (.operation rank) := by
  intro tokens tree rest read
  obtain ⟨_, _, contra⟩ | ⟨last, progress, ends⟩ := run_readOperands_cases sound read
  · contradiction
  · obtain ⟨earlier, right, isLeft⟩ := progress.isLeft
    have stops := halts earlier right _ isLeft
    cases ends with
    | stopped noOperator =>
        cases rest with
        | nil => exact stops_nil _
        | cons token others => exact stops_operation (noOperator token rfl) stops

/-- Nothing continues a signed operand. -/
theorem halts_readUnary (finish : Token) (nested : Reader) :
    Reader.Halts (readUnary finish nested) .signed := by
  intro tokens tree rest read
  simp [Stops, Phrase.continuations]

/-- A sum stops only where no operator follows. -/
theorem halts_readAdditive {finish : Token} {nested : Reader} {limit : Nat}
    (sound : nested.Sound .formula limit) :
    Reader.Halts (readAdditive finish nested) (.operation .additive) :=
  halts_readOperands .additive (sound_readOperands .multiplicative (sound_readUnary sound))
    (halts_readOperands .multiplicative (sound_readUnary sound) (halts_readUnary finish nested))

/-- A token other than a question mark ends a formula when it ends a sum. -/
theorem stops_formula {token : Token} {rest : List Token} (noQuestion : token.kind ≠ .question)
    (stops : Stops (.operation .additive) (token :: rest)) : Stops .formula (token :: rest) := by
  refine stops_cons rfl ?_
  have sumStops := stops token rfl
  revert noQuestion sumStops
  cases token.kind <;> decide

/-- A conditional stops where its last branch does, and a lone condition where no question
follows. -/
theorem halts_readTernary {finish : Token} {nested : Reader} {limit : Nat}
    (sound : nested.Sound .formula limit) (halts : nested.Halts .formula) :
    Reader.Halts (readTernary finish nested) .formula := by
  intro tokens tree rest read
  rw [run_readTernary] at read
  obtain ⟨⟨condition, after⟩, readCondition, read⟩ := Except.bind_eq_ok_iff.mp read
  have stops := halts_readAdditive sound tokens condition after readCondition
  cases after with
  | nil =>
      cases read
      exact stops_nil _
  | cons token others =>
      simp only [runAfterCondition] at read
      split at read
      · unfold runBranches at read
        obtain ⟨thenBranch, _, read⟩ := Except.bind_eq_ok_iff.mp read
        obtain ⟨separated, _, read⟩ := Except.bind_eq_ok_iff.mp read
        obtain ⟨⟨elseTree, afterElse⟩, readElse, read⟩ := Except.bind_eq_ok_iff.mp read
        obtain ⟨_, _, equal⟩ := Except.map_eq_ok_iff.mp read
        cases equal
        exact halts separated elseTree afterElse readElse
      · rename_i noQuestion
        cases read
        exact stops_formula noQuestion stops

/-- A formula stops only where it cannot go on. -/
theorem halts_readNested (finish : Token) (limit : Nat) :
    Reader.Halts (readNested finish limit) .formula := by
  induction limit with
  | zero =>
      intro tokens tree rest read
      simp at read
  | succ limit inductionHypothesis =>
      exact halts_readTernary (sound_readNested finish limit) inductionHypothesis

/-- These errors are about the size of a number or of a formula, wherever it stands. -/
def AboutSize (error : SyntaxError) : Prop :=
  error.cause = .nestedTooDeeply ∨ (∃ text, error.cause = .numberOutOfRange text) ∨
    ∃ text, error.cause = .unreadableNumber text

/-- The error stands at one of the tokens or at the end of the input. If it is not about size, it
stands at the first token that is wrong for the phrase. -/
def Located (finish : Token) (phrase : Phrase) (tokens : List Token) (error : SyntaxError) :
    Prop :=
  ∃ before token after, tokens ++ [finish] = before ++ token :: after ∧
    error.position = token.position ∧ (AboutSize error ∨ Misplaced phrase before token)

/-- A reader locates its errors. -/
def Reader.Locates (reader : Reader) (finish : Token) (phrase : Phrase) : Prop :=
  ∀ tokens error, reader.run tokens = .error error → Located finish phrase tokens error

section

variable {finish token : Token} {phrase inner : Phrase} {tokens : List Token} {error : SyntaxError}

/-- An error in a part of a phrase is located in the phrase. -/
theorem Located.lift {rest : List Token} (located : Located finish inner rest error)
    (consumed : List Token)
    (lifts : ∀ before token after, rest ++ [finish] = before ++ token :: after →
      Misplaced inner before token → Misplaced phrase (consumed ++ before) token) :
    Located finish phrase (consumed ++ rest) error := by
  obtain ⟨before, token, after, split, position, reason⟩ := located
  refine ⟨consumed ++ before, token, after, ?_, position, reason.imp_right ?_⟩
  · rw [List.append_assoc, split, List.append_assoc]
  · exact lifts before token after split

/-- An error in an inner phrase is located in the phrase around it. -/
theorem Located.within {consumed rest : List Token} {levels : Nat}
    (located : Located finish inner rest error) (slot : Slot phrase inner consumed levels) :
    Located finish phrase (consumed ++ rest) error :=
  located.lift consumed fun _ _ _ _ misplaced => misplaced.within slot

/-- An error about size may stand at any token or at the end. -/
theorem located_of_aboutSize (isMember : token ∈ tokens ++ [finish])
    (position : error.position = token.position) (aboutSize : AboutSize error) :
    Located finish phrase tokens error := by
  obtain ⟨before, after, split⟩ := List.append_of_mem isMember
  exact ⟨before, token, after, split, position, .inl aboutSize⟩

/-- A tree that is too deep is reported at a token that is read. -/
theorem located_limitDepth {tree : Expression} (refused : limitDepth tree token = .error error)
    (isMember : token ∈ tokens) : Located finish phrase tokens error := by
  unfold limitDepth at refused
  split at refused
  · contradiction
  · cases refused
    exact located_of_aboutSize (List.mem_append_left _ isMember) rfl (.inl rfl)

/-- A number out of range is reported at its token. -/
theorem located_readNumber (refused : readNumber token = .error error)
    (isMember : token ∈ tokens) : Located finish phrase tokens error := by
  unfold readNumber at refused
  split at refused
  · contradiction
  · cases refused
    exact located_of_aboutSize (List.mem_append_left _ isMember) rfl (.inr (.inl ⟨_, rfl⟩))
  · cases refused
    exact located_of_aboutSize (List.mem_append_left _ isMember) rfl (.inr (.inr ⟨_, rfl⟩))

/-- A missing symbol is reported at the token in its slot. -/
theorem exists_next_of_runSymbol {kind : Token.Kind} (noFinish : finish.kind ≠ kind)
    (refused : runSymbol finish kind tokens = .error error) :
    ∃ next after, tokens ++ [finish] = next :: after ∧ next.kind ≠ kind ∧
      error.position = next.position := by
  cases tokens with
  | nil =>
      cases refused
      exact ⟨finish, [], rfl, noFinish, rfl⟩
  | cons first rest =>
      rw [runSymbol_cons] at refused
      split at refused
      · contradiction
      · rename_i noSymbol
        cases refused
        exact ⟨first, rest ++ [finish], rfl, noSymbol, rfl⟩

/-- What stops a formula does not continue it, and neither does the end of the input. -/
theorem notMem_continuations {next : Token} {after : List Token} (stops : Stops .formula tokens)
    (ends : finish.kind = .endOfInput) (split : tokens ++ [finish] = next :: after) :
    next.kind ∉ Phrase.formula.continuations := by
  cases tokens with
  | nil =>
      cases split
      rw [ends]
      decide
  | cons first rest =>
      cases split
      exact stops next rfl

variable {nested : Reader} {limit : Nat}

/-- The errors of an operand are located. -/
theorem locates_readPrimary (ends : finish.kind = .endOfInput)
    (sound : nested.Sound .formula limit) (halts : nested.Halts .formula)
    (locates : nested.Locates finish .formula) :
    Reader.Locates (readPrimary finish nested) finish .operand := by
  intro tokens error refused
  cases tokens with
  | nil =>
      cases refused
      exact ⟨[], finish, [], rfl, rfl, .inr (misplaced_operand (by simp [ends]) (by simp [ends])
        (by simp [ends]))⟩
  | cons token others =>
      rw [run_readPrimary_cons] at refused
      split at refused
      · rename_i opens
        rcases Except.bind_eq_error_iff.mp refused with
          refused | ⟨⟨tree, after⟩, readInner, refused⟩
        · exact (locates others error refused).within (slot_parentheses opens)
        · rcases Except.bind_eq_error_iff.mp refused with refused | ⟨_, _, refused⟩
          · obtain ⟨derivation, consumed, _⟩ := sound others tree after readInner
            obtain ⟨next, rest, split, noClosing, position⟩ :=
              exists_next_of_runSymbol (by simp [ends]) refused
            have continues := notMem_continuations (halts others tree after readInner) ends split
            refine ⟨token :: derivation.tokens, next, rest, ?_, position,
              .inr (misplaced_closing opens derivation continues noClosing)⟩
            rw [consumed, List.cons_append, List.append_assoc, split, List.cons_append]
          · contradiction
      · rcases Except.bind_eq_error_iff.mp refused with refused | ⟨_, _, refused⟩
        · exact located_readNumber refused (List.mem_cons_self ..)
        · contradiction
      · contradiction
      · rename_i noParenthesis noNumber noIdentifier
        cases refused
        exact ⟨[], token, others ++ [finish], rfl, rfl,
          .inr (misplaced_operand noParenthesis noNumber noIdentifier)⟩

/-- The errors of a signed operand are located. -/
theorem locates_readUnary (ends : finish.kind = .endOfInput)
    (sound : nested.Sound .formula limit) (halts : nested.Halts .formula)
    (locates : nested.Locates finish .formula) :
    Reader.Locates (readUnary finish nested) finish .signed := by
  intro tokens error refused
  have primary := locates_readPrimary ends sound halts locates
  -- A signed operand without a minus is an operand, so the same token is wrong in both.
  have unsigned : (∀ first ∈ (tokens ++ [finish]).head?, first.kind ≠ .minus) →
      Reader.run (readPrimary finish nested) tokens = .error error →
        Located finish .signed tokens error := by
    intro noMinus refused
    refine (primary tokens error refused).lift [] fun before token after split misplaced =>
      misplaced.unsigned fun first isFirst => noMinus first ?_
    rw [split]
    cases before with
    | nil => exact isFirst
    | cons => exact isFirst
  cases tokens with
  | nil => exact unsigned (by simp [ends]) refused
  | cons token others =>
      by_cases isMinus : token.kind = .minus
      · rw [run_readUnary_minus nested others isMinus] at refused
        rcases Except.bind_eq_error_iff.mp refused with refused | ⟨operand, _, refused⟩
        · exact (primary others error refused).within (slot_negated isMinus)
        · exact located_limitDepth (Except.map_eq_error_iff.mp refused) (List.mem_cons_self ..)
      · rw [run_readUnary_other nested others isMinus] at refused
        exact unsigned (by simpa using isMinus) refused

/-- The error of a loop is that of its last operand, which follows a whole operation. -/
theorem locates_readOperands (rank : Rank) {operand : Reader}
    (sound : operand.Sound rank.item limit) (locates : operand.Locates finish rank.item) :
    Reader.Locates (readOperands (rankOperator? rank) operand) finish (.operation rank) := by
  intro tokens error refused
  obtain ⟨_, isRefused, same⟩ | ⟨last, progress, ends⟩ := run_readOperands_cases sound refused
  · cases same
    exact (locates tokens error isRefused).within (slot_first rank)
  · obtain ⟨before, consumed, _⟩ := progress.derives
    rw [consumed]
    cases ends with
    | @refused left token rest operator _ goesOn isRefused =>
        obtain ⟨ranked, stands⟩ := rankOperator_eq_some_iff.mp goesOn
        have located :
            Located finish (.operation rank) ((before.tokens ++ [token]) ++ rest) error :=
          (locates rest error isRefused).within (slot_next before ranked stands)
        rwa [List.append_assoc] at located
    | tooDeep _ _ isDeep => exact located_limitDepth isDeep (by simp)

theorem locates_readAdditive (ends : finish.kind = .endOfInput)
    (sound : nested.Sound .formula limit) (halts : nested.Halts .formula)
    (locates : nested.Locates finish .formula) :
    Reader.Locates (readAdditive finish nested) finish (.operation .additive) :=
  locates_readOperands .additive (sound_readOperands .multiplicative (sound_readUnary sound))
    (locates_readOperands .multiplicative (sound_readUnary sound)
      (locates_readUnary ends sound halts locates))

/-- The errors after a question mark are located behind the condition. -/
theorem locates_runBranches (ends : finish.kind = .endOfInput)
    (sound : nested.Sound .formula limit) (halts : nested.Halts .formula)
    (locates : nested.Locates finish .formula) {tree : Expression}
    (condition : Derivation (.operation .additive)) (asks : token.kind = .question)
    (refused : runBranches finish nested tree token tokens = .error error) :
    Located finish .formula (condition.tokens ++ token :: tokens) error := by
  unfold runBranches at refused
  rcases Except.bind_eq_error_iff.mp refused with refused | ⟨⟨thenTree, after⟩, readThen, refused⟩
  · have located : Located finish .formula ((condition.tokens ++ [token]) ++ tokens) error :=
      (locates tokens error refused).within (slot_thenBranch condition asks)
    rwa [List.append_assoc] at located
  obtain ⟨thenBranch, consumed, _⟩ := sound tokens thenTree after readThen
  rcases Except.bind_eq_error_iff.mp refused with refused | ⟨separated, isSeparated, refused⟩
  · obtain ⟨next, rest, split, noColon, position⟩ :=
      exists_next_of_runSymbol (by simp [ends]) refused
    have continues := notMem_continuations (halts tokens thenTree after readThen) ends split
    refine ⟨condition.tokens ++ token :: thenBranch.tokens, next, rest, ?_, position,
      .inr (misplaced_colon condition asks thenBranch continues noColon)⟩
    rw [consumed]
    simp [split]
  · obtain ⟨colon, colonFirst, separates⟩ := runSymbol_eq_ok_iff.mp isSeparated
    rcases Except.bind_eq_error_iff.mp refused with refused | ⟨elseBranch, _, refused⟩
    · have located : Located finish .formula
          ((condition.tokens ++ token :: (thenBranch.tokens ++ [colon])) ++ separated) error :=
        (locates separated error refused).within
          (slot_elseBranch condition asks thenBranch separates)
      dsimp only at colonFirst
      rw [consumed, colonFirst]
      simpa using located
    · exact located_limitDepth (Except.map_eq_error_iff.mp refused) (by simp)

/-- The errors of a conditional are located. -/
theorem locates_readTernary (ends : finish.kind = .endOfInput)
    (sound : nested.Sound .formula limit) (halts : nested.Halts .formula)
    (locates : nested.Locates finish .formula) :
    Reader.Locates (readTernary finish nested) finish .formula := by
  intro tokens error refused
  rw [run_readTernary] at refused
  rcases Except.bind_eq_error_iff.mp refused with refused | ⟨⟨tree, after⟩, readCondition, refused⟩
  · exact (locates_readAdditive ends sound halts locates tokens error refused).within
      slot_condition
  · obtain ⟨condition, consumed, _⟩ := sound_readAdditive sound tokens tree after readCondition
    cases after with
    | nil => contradiction
    | cons question others =>
        simp only [runAfterCondition] at refused
        split at refused
        · rename_i asks
          rw [consumed]
          exact locates_runBranches ends sound halts locates condition asks refused
        · contradiction

/-- A reader of nested formulas locates its errors. -/
theorem locates_readNested (ends : finish.kind = .endOfInput) (limit : Nat) :
    Reader.Locates (readNested finish limit) finish .formula := by
  induction limit with
  | zero =>
      intro tokens error refused
      rw [run_readNested_zero] at refused
      cases refused
      have isMember : current finish tokens ∈ tokens ++ [finish] := by
        cases tokens with
        | nil => exact List.mem_singleton_self finish
        | cons first rest => exact List.mem_cons_self ..
      exact located_of_aboutSize isMember rfl (.inl rfl)
  | succ limit inductionHypothesis =>
      exact locates_readTernary ends (sound_readNested finish limit) (halts_readNested finish limit)
        inductionHypothesis

end

end Casework.Expression
