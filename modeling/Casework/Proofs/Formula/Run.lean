/-
This file states what each reader does in terms of its tree and of the tokens that it leaves.
The proof that a reader consumes a token is not a part of these statements.
-/

import Casework.Formula.Reading
import Casework.ToMathlib.Except
import Mathlib.Logic.Relation

namespace Casework.Expression

/-- A run has a tree and the tokens after it, or an error. -/
abbrev Run := Except SyntaxError (Expression × List Token)

def Reader.run (reader : Reader) (tokens : List Token) : Run :=
  (reader tokens).map fun parsed => (parsed.tree, parsed.rest)

/-- A loop runs like a reader. -/
def runExtend (operator? : Token.Kind → Option Operator) (operand : Reader) (left : Expression)
    (tokens : List Token) : Run :=
  (extend operator? operand left tokens).map fun extended => (extended.tree, extended.rest)

/-- A symbol leaves the tokens after it. -/
def runSymbol (finish : Token) (kind : Token.Kind) (tokens : List Token) :
    Except SyntaxError (List Token) :=
  (readSymbol finish kind tokens).map Subtype.val

/-- The first token either is the symbol or is reported in its place. -/
theorem runSymbol_cons (finish token : Token) (kind : Token.Kind) (rest : List Token) :
    runSymbol finish kind (token :: rest) =
      if token.kind = kind then .ok rest
      else .error ⟨.expectedSymbol kind token, token.position⟩ := by
  unfold runSymbol readSymbol
  dsimp only
  split <;> rfl

/-- A symbol is read exactly when it is the first token. -/
theorem runSymbol_eq_ok_iff {finish : Token} {kind : Token.Kind} {tokens rest : List Token} :
    runSymbol finish kind tokens = .ok rest ↔
      ∃ token, tokens = token :: rest ∧ token.kind = kind := by
  cases tokens with
  | nil => simp [runSymbol, readSymbol, Except.map]
  | cons token others =>
      rw [runSymbol_cons]
      by_cases same : token.kind = kind
      · rw [if_pos same]
        constructor
        · rintro ⟨⟩
          exact ⟨token, rfl, same⟩
        · rintro ⟨_, equal, _⟩
          cases equal
          rfl
      · rw [if_neg same]
        constructor
        · rintro ⟨⟩
        · rintro ⟨_, equal, isKind⟩
          cases equal
          contradiction

/-- A missing symbol is reported as such. -/
theorem cause_of_runSymbol {finish : Token} {kind : Token.Kind} {tokens : List Token}
    {error : SyntaxError} (refused : runSymbol finish kind tokens = .error error) :
    ∃ found, error.cause = .expectedSymbol kind found := by
  cases tokens with
  | nil =>
      cases refused
      exact ⟨finish, rfl⟩
  | cons token rest =>
      rw [runSymbol_cons] at refused
      split at refused
      · contradiction
      · cases refused
        exact ⟨token, rfl⟩

/-- A tree passes the limit unchanged, and only when it is not too deep. -/
theorem limitDepth_eq_ok_iff {tree result : Expression} {token : Token} :
    limitDepth tree token = .ok result ↔ result = tree ∧ tree.depth ≤ depthLimit := by
  unfold limitDepth
  by_cases shallow : tree.depth ≤ depthLimit <;> simp [shallow, eq_comm]

@[simp]
theorem run_readPrimary_nil (finish : Token) (nested : Reader) :
    Reader.run (readPrimary finish nested) [] =
      .error ⟨.expectedOperand finish, finish.position⟩ := rfl

/-- The kind of the first token decides what an operand is. -/
theorem run_readPrimary_cons (finish : Token) (nested : Reader) (token : Token)
    (rest : List Token) :
    Reader.run (readPrimary finish nested) (token :: rest) =
      match token.kind with
      | .leftParen => do
        let inner ← nested.run rest
        let after ← runSymbol finish .rightParen inner.2
        .ok (inner.1, after)
      | .number => do
        let value ← readNumber token
        .ok (.number value, rest)
      | .identifier => .ok (.parameter token.text, rest)
      | _ => .error ⟨.expectedOperand token, token.position⟩ := by
  unfold Reader.run readPrimary runSymbol
  dsimp only
  cases token.kind with
  | leftParen =>
      dsimp only
      cases nested rest with
      | error error => rfl
      | ok inner =>
          cases closed : readSymbol finish .rightParen inner.rest <;>
            simp [closed]
  | number =>
      dsimp only
      cases readNumber token <;> rfl
  | _ => rfl

@[simp]
theorem run_readUnary_nil (finish : Token) (nested : Reader) :
    Reader.run (readUnary finish nested) [] =
      .error ⟨.expectedOperand finish, finish.position⟩ := rfl

/-- A minus sign negates the operand after it. -/
theorem run_readUnary_minus {finish token : Token} (nested : Reader) (rest : List Token)
    (isMinus : token.kind = .minus) :
    Reader.run (readUnary finish nested) (token :: rest) =
      (Reader.run (readPrimary finish nested) rest >>= fun operand =>
        (limitDepth (.negate operand.1) token).map fun tree => (tree, operand.2)) := by
  unfold Reader.run
  rw [readUnary, isMinus]
  dsimp only
  cases readPrimary finish nested rest with
  | error error => rfl
  | ok operand =>
      cases limited : limitDepth (.negate operand.tree) token <;>
        simp [limited]

/-- Without a minus sign there is only the operand. -/
theorem run_readUnary_other {finish token : Token} (nested : Reader) (rest : List Token)
    (noMinus : token.kind ≠ .minus) :
    Reader.run (readUnary finish nested) (token :: rest) =
      Reader.run (readPrimary finish nested) (token :: rest) := by
  unfold Reader.run
  rw [readUnary]
  split
  · contradiction
  · rfl

@[simp]
theorem runExtend_nil (operator? : Token.Kind → Option Operator) (operand : Reader)
    (left : Expression) : runExtend operator? operand left [] = .ok (left, []) := by
  unfold runExtend extend
  rfl

/-- A token without an operator ends the loop and is left. -/
theorem runExtend_none {operator? : Token.Kind → Option Operator} {token : Token}
    (operand : Reader) (left : Expression) (rest : List Token)
    (ends : operator? token.kind = none) :
    runExtend operator? operand left (token :: rest) = .ok (left, token :: rest) := by
  unfold runExtend
  rw [extend, ends]
  rfl

/-- A token with an operator takes one operand, and the loop goes on with the new tree. -/
theorem runExtend_some {operator? : Token.Kind → Option Operator} {token : Token}
    {operator : Operator} (operand : Reader) (left : Expression) (rest : List Token)
    (goesOn : operator? token.kind = some operator) :
    runExtend operator? operand left (token :: rest) =
      (operand.run rest >>= fun right =>
        limitDepth (.binary operator left right.1) token >>= fun tree =>
          runExtend operator? operand tree right.2) := by
  unfold runExtend Reader.run
  rw [extend, goesOn]
  dsimp only
  cases operand rest with
  | error error => rfl
  | ok right =>
      cases limited : limitDepth (.binary operator left right.tree) token with
      | error error => simp [limited]
      | ok tree =>
          cases extended : extend operator? operand tree right.rest <;>
            simp [limited, extended]

/-- A turn of a loop takes an operator and an operand into the tree so far. -/
inductive Turn (operator? : Token.Kind → Option Operator) (operand : Reader) :
    Expression × List Token → Expression × List Token → Prop
  | mk {left right : Expression} {token : Token} {rest after : List Token} {operator : Operator}
      (goesOn : operator? token.kind = some operator)
      (isRight : operand.run rest = .ok (right, after))
      (shallow : (Expression.binary operator left right).depth ≤ depthLimit) :
      Turn operator? operand (left, token :: rest) (.binary operator left right, after)

/-- A loop ends where no operator follows, with an operand that is refused, or with a tree that is
too deep. -/
inductive Ends (operator? : Token.Kind → Option Operator) (operand : Reader) :
    Expression × List Token → Run → Prop
  | stopped {left : Expression} {tokens : List Token}
      (noOperator : ∀ token ∈ tokens.head?, operator? token.kind = none) :
      Ends operator? operand (left, tokens) (.ok (left, tokens))
  | refused {left : Expression} {token : Token} {rest : List Token} {operator : Operator}
      {error : SyntaxError} (goesOn : operator? token.kind = some operator)
      (isRefused : operand.run rest = .error error) :
      Ends operator? operand (left, token :: rest) (.error error)
  | tooDeep {left right : Expression} {token : Token} {rest after : List Token}
      {operator : Operator} {error : SyntaxError}
      (goesOn : operator? token.kind = some operator)
      (isRight : operand.run rest = .ok (right, after))
      (isDeep : limitDepth (.binary operator left right) token = .error error) :
      Ends operator? operand (left, token :: rest) (.error error)

/-- A loop takes turns until it ends. -/
theorem exists_ends_of_runExtend (operator? : Token.Kind → Option Operator) (operand : Reader)
    (left : Expression) (tokens : List Token) :
    ∃ last, Relation.ReflTransGen (Turn operator? operand) (left, tokens) last ∧
      Ends operator? operand last (runExtend operator? operand left tokens) := by
  induction left, tokens using extend.induct operator? with
  | case1 left =>
      rw [runExtend_nil]
      exact ⟨_, .refl, .stopped (by simp)⟩
  | case2 left token rest ends =>
      rw [runExtend_none operand left rest ends]
      exact ⟨_, .refl, .stopped (by simpa using ends)⟩
  | case3 left token rest operator goesOn inductionHypothesis =>
      rw [runExtend_some operand left rest goesOn]
      cases isRight : operand.run rest with
      | error error => exact ⟨_, .refl, .refused goesOn isRight⟩
      | ok right =>
          obtain ⟨parsed, _, rfl⟩ := Except.map_eq_ok_iff.mp isRight
          cases isTree : limitDepth (.binary operator left parsed.tree) token with
          | error error =>
              refine ⟨_, .refl, ?_⟩
              simpa [isTree] using .tooDeep goesOn isRight isTree
          | ok tree =>
              obtain ⟨rfl, shallow⟩ := limitDepth_eq_ok_iff.mp isTree
              obtain ⟨last, turns, ends⟩ := inductionHypothesis parsed _
              refine ⟨last, .head (.mk goesOn isRight shallow) turns, ?_⟩
              simpa [isTree] using ends

/-- A loop starts with its first operand. -/
theorem run_readOperands (operator? : Token.Kind → Option Operator) (operand : Reader)
    (tokens : List Token) :
    Reader.run (readOperands operator? operand) tokens =
      (operand.run tokens >>= fun first => runExtend operator? operand first.1 first.2) := by
  unfold Reader.run runExtend readOperands
  cases operand tokens with
  | error error => rfl
  | ok first =>
      cases extended : extend operator? operand first.tree first.rest <;>
        simp [extended]

/-- The branches of a conditional follow the question mark. -/
def runBranches (finish : Token) (nested : Reader) (condition : Expression) (question : Token)
    (tokens : List Token) : Run :=
  nested.run tokens >>= fun thenBranch =>
    runSymbol finish .colon thenBranch.2 >>= fun separated =>
      nested.run separated >>= fun elseBranch =>
        (limitDepth (.conditional condition thenBranch.1 elseBranch.1) question).map fun tree =>
          (tree, elseBranch.2)

/-- A condition stands alone unless a question mark follows it. -/
def runAfterCondition (finish : Token) (nested : Reader) (condition : Expression) :
    List Token → Run
  | [] => .ok (condition, [])
  | token :: rest =>
    if token.kind = .question then runBranches finish nested condition token rest
    else .ok (condition, token :: rest)

/-- A conditional starts with its condition. -/
theorem run_readTernary (finish : Token) (nested : Reader) (tokens : List Token) :
    Reader.run (readTernary finish nested) tokens =
      (Reader.run (readAdditive finish nested) tokens >>= fun condition =>
        runAfterCondition finish nested condition.1 condition.2) := by
  unfold Reader.run readTernary
  cases readAdditive finish nested tokens with
  | error error => rfl
  | ok condition =>
      obtain ⟨tree, rest, shorter⟩ := condition
      cases rest with
      | nil => rfl
      | cons token rest =>
          unfold runAfterCondition runBranches Reader.run runSymbol
          cases kind : token.kind with
          | question =>
              simp only [kind, bind, Except.bind, Except.map, if_true]
              cases nested rest with
              | error error => rfl
              | ok thenBranch =>
                  dsimp only
                  cases readSymbol finish .colon thenBranch.rest with
                  | error error => rfl
                  | ok after =>
                      dsimp only
                      cases nested after.1 with
                      | error error => rfl
                      | ok elseBranch =>
                          dsimp only
                          cases limitDepth
                            (.conditional tree thenBranch.tree elseBranch.tree) token <;> rfl
          | _ => simp [kind]

/-- A reader without levels reports the token that it is at. -/
@[simp]
theorem run_readNested_zero (finish : Token) (tokens : List Token) :
    Reader.run (readNested finish 0) tokens =
      .error ⟨.nestedTooDeeply, (current finish tokens).position⟩ := rfl

end Casework.Expression
