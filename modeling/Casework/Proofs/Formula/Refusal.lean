import Casework.Proofs.Formula.Soundness

namespace Casework.Expression

open Grammar

/-- A number token is readable when its text is read as some number. -/
def Readable (tokens : List Token) : Prop :=
  ∀ token ∈ tokens, token.kind = .number → ∃ value, Decimal.read? token.text = some value

theorem Readable.of_append {first second : List Token} (readable : Readable (first ++ second)) :
    Readable second :=
  fun token isMember => readable token (List.mem_append_right _ isMember)

theorem Readable.of_cons {token : Token} {rest : List Token} (readable : Readable (token :: rest)) :
    Readable rest :=
  fun other isMember => readable other (List.mem_cons_of_mem _ isMember)

/-- The error is about the formula and not about the reading of a number. -/
def AboutFormula (error : SyntaxError) : Prop := ∀ text, error.cause ≠ .unreadableNumber text

/-- The errors of the reader on readable tokens are about the formula. -/
def Reader.Proper (reader : Reader) : Prop :=
  ∀ tokens error, Readable tokens → reader.run tokens = .error error → AboutFormula error

/-- A missing symbol concerns the formula. -/
theorem aboutFormula_runSymbol {finish : Token} {kind : Token.Kind} {tokens : List Token}
    {error : SyntaxError} (refused : runSymbol finish kind tokens = .error error) :
    AboutFormula error := by
  obtain ⟨found, isCause⟩ := cause_of_runSymbol refused
  exact fun text => by simp [isCause]

/-- A tree that is too deep concerns the formula. -/
theorem aboutFormula_limitDepth {tree : Expression} {token : Token} {error : SyntaxError}
    (refused : limitDepth tree token = .error error) : AboutFormula error := by
  unfold limitDepth at refused
  split at refused
  · contradiction
  · cases refused
    exact fun text => by simp

/-- A number out of range concerns the formula when its token is a numeral. -/
theorem aboutFormula_readNumber {token : Token} {value : Binary64} {error : SyntaxError}
    (isRead : Decimal.read? token.text = some value)
    (refused : readNumber token = .error error) : AboutFormula error := by
  unfold readNumber at refused
  rw [isRead] at refused
  cases value with
  | finite value => contradiction
  | infinite negative =>
      cases refused
      exact fun text => by simp
  | notNumber =>
      cases refused
      exact fun text => by simp

/-- The errors of an operand are those of its number or of the formula inside it. -/
theorem proper_readPrimary (finish : Token) {nested : Reader} (proper : nested.Proper) :
    Reader.Proper (readPrimary finish nested) := by
  intro tokens error readable refused
  cases tokens with
  | nil =>
      cases refused
      exact fun text => by simp
  | cons token others =>
      rw [run_readPrimary_cons] at refused
      split at refused
      · rcases Except.bind_eq_error_iff.mp refused with refused | ⟨inner, _, refused⟩
        · exact proper others error readable.of_cons refused
        · rcases Except.bind_eq_error_iff.mp refused with refused | ⟨after, _, refused⟩
          · exact aboutFormula_runSymbol refused
          · contradiction
      · rename_i isNumber
        obtain ⟨value, isRead⟩ := readable token (by simp) isNumber
        rcases Except.bind_eq_error_iff.mp refused with refused | ⟨number, _, refused⟩
        · exact aboutFormula_readNumber isRead refused
        · contradiction
      · contradiction
      · cases refused
        exact fun text => by simp

/-- A sign adds no other errors than that of the depth. -/
theorem proper_readUnary (finish : Token) {nested : Reader} (proper : nested.Proper) :
    Reader.Proper (readUnary finish nested) := by
  intro tokens error readable refused
  cases tokens with
  | nil => exact proper_readPrimary finish proper [] error readable refused
  | cons token others =>
      by_cases isMinus : token.kind = .minus
      · rw [run_readUnary_minus nested others isMinus] at refused
        rcases Except.bind_eq_error_iff.mp refused with refused | ⟨operand, _, refused⟩
        · exact proper_readPrimary finish proper others error readable.of_cons refused
        · exact aboutFormula_limitDepth (Except.map_eq_error_iff.mp refused)
      · rw [run_readUnary_other nested others isMinus] at refused
        exact proper_readPrimary finish proper _ error readable refused

/-- The errors of an operation come from an operand or from the depth of the tree. -/
theorem proper_readOperands (rank : Rank) {operand : Reader} {limit : Nat}
    (sound : operand.Sound rank.item limit) (proper : operand.Proper) :
    Reader.Proper (readOperands (rankOperator? rank) operand) := by
  intro tokens error readable refused
  obtain ⟨_, isRefused, same⟩ | ⟨last, progress, ends⟩ := run_readOperands_cases sound refused
  · cases same
    exact proper tokens error readable isRefused
  · obtain ⟨before, consumed, _⟩ := progress.derives
    rw [consumed] at readable
    cases ends with
    | refused _ isRefused => exact proper _ error readable.of_append.of_cons isRefused
    | tooDeep _ _ isDeep => exact aboutFormula_limitDepth isDeep

theorem proper_readAdditive (finish : Token) {nested : Reader} {limit : Nat}
    (sound : nested.Sound .formula limit) (proper : nested.Proper) :
    Reader.Proper (readAdditive finish nested) :=
  proper_readOperands .additive (sound_readOperands .multiplicative (sound_readUnary sound))
    (proper_readOperands .multiplicative (sound_readUnary sound) (proper_readUnary finish proper))

/-- The errors of a conditional come from its parts, its colon or the depth of the tree. -/
theorem proper_readTernary (finish : Token) {nested : Reader} {limit : Nat}
    (sound : nested.Sound .formula limit) (proper : nested.Proper) :
    Reader.Proper (readTernary finish nested) := by
  intro tokens error readable refused
  rw [run_readTernary] at refused
  rcases Except.bind_eq_error_iff.mp refused with refused | ⟨⟨tree, after⟩, readCondition, refused⟩
  · exact proper_readAdditive finish sound proper tokens error readable refused
  · obtain ⟨condition, consumed, _⟩ := sound_readAdditive sound tokens tree after readCondition
    have readableAfter : Readable after := (consumed ▸ readable).of_append
    cases after with
    | nil => contradiction
    | cons token others =>
        simp only [runAfterCondition] at refused
        split at refused
        · unfold runBranches at refused
          rcases Except.bind_eq_error_iff.mp refused with refused | ⟨thenBranch, readThen, refused⟩
          · exact proper others error readableAfter.of_cons refused
          rcases Except.bind_eq_error_iff.mp refused with
            refused | ⟨separated, isSeparated, refused⟩
          · exact aboutFormula_runSymbol refused
          rcases Except.bind_eq_error_iff.mp refused with refused | ⟨elseBranch, _, refused⟩
          · obtain ⟨colon, colonFirst, _⟩ := runSymbol_eq_ok_iff.mp isSeparated
            obtain ⟨thenPart, thenConsumed, _⟩ :=
              sound others thenBranch.1 thenBranch.2 readThen
            have readableThen : Readable (colon :: separated) :=
              colonFirst ▸ (thenConsumed ▸ readableAfter.of_cons).of_append
            exact proper separated error readableThen.of_cons refused
          · exact aboutFormula_limitDepth (Except.map_eq_error_iff.mp refused)
        · contradiction

/-- A reader of nested formulas refuses readable tokens only for what is wrong with the formula. -/
theorem proper_readNested (finish : Token) (limit : Nat) :
    Reader.Proper (readNested finish limit) := by
  induction limit with
  | zero =>
      intro tokens error readable refused
      rw [run_readNested_zero] at refused
      cases refused
      exact fun text => by simp
  | succ limit inductionHypothesis =>
      exact proper_readTernary finish (sound_readNested finish limit) inductionHypothesis

end Casework.Expression
