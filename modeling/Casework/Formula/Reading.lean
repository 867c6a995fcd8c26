/-
This file reads formulas from tokens by recursive descent.
A reader consumes at least one token, which bounds the loops over operators, and every nested
formula lowers the count of levels that are left, which bounds the recursion.
-/

import Casework.Decimal.Reading
import Casework.Formula.Expression
import Casework.Formula.Scan

namespace Casework

namespace Expression

/-- Trees may not be deeper and formulas may not be nested deeper than this. -/
def depthLimit : Nat := 64

/-- A reader finds a tree and leaves fewer tokens. -/
structure Parsed (tokens : List Token) where
  tree : Expression
  rest : List Token
  shorter : rest.length < tokens.length

/-- A loop may find nothing to consume. -/
structure Extended (tokens : List Token) where
  tree : Expression
  rest : List Token
  notLonger : rest.length ≤ tokens.length

abbrev Reader := (tokens : List Token) → Except SyntaxError (Parsed tokens)

/-- The end of the input stands after the last token. -/
def current (finish : Token) (tokens : List Token) : Token := tokens.headD finish

/-- A tree that is too deep is refused at the given token. -/
def limitDepth (tree : Expression) (token : Token) : Except SyntaxError Expression :=
  if tree.depth ≤ depthLimit then .ok tree else .error ⟨.nestedTooDeeply, token.position⟩

def additiveOperator? : Token.Kind → Option Operator
  | .plus => some .add
  | .minus => some .sub
  | _ => none

def multiplicativeOperator? : Token.Kind → Option Operator
  | .star => some .mul
  | .slash => some .div
  | _ => none

/-- A symbol is consumed, or it is an error that another token stands in its place. -/
def readSymbol (finish : Token) (kind : Token.Kind) (tokens : List Token) :
    Except SyntaxError { rest : List Token // rest.length < tokens.length } :=
  match tokens with
  | [] => .error ⟨.expectedSymbol kind finish, finish.position⟩
  | token :: rest =>
    if token.kind = kind then .ok ⟨rest, Nat.lt_succ_self _⟩
    else .error ⟨.expectedSymbol kind token, token.position⟩

/-- The text of a number token becomes a finite literal. -/
def readNumber (token : Token) : Except SyntaxError Binary64.Finite :=
  match Decimal.read? token.text with
  | some (.finite value) => .ok value
  | some _ => .error ⟨.numberOutOfRange token.text, token.position⟩
  | none => .error ⟨.unreadableNumber token.text, token.position⟩

/-- A primary is a number, an identifier or a nested formula in parentheses. -/
def readPrimary (finish : Token) (nested : Reader) : Reader
  | [] => .error ⟨.expectedOperand finish, finish.position⟩
  | token :: rest =>
    match token.kind with
    | .leftParen => do
      let inner ← nested rest
      let closed ← readSymbol finish .rightParen inner.rest
      .ok ⟨inner.tree, closed.1,
        Nat.lt_trans closed.2 (Nat.lt_trans inner.shorter (Nat.lt_succ_self _))⟩
    | .number => do
      let value ← readNumber token
      .ok ⟨.number value, rest, Nat.lt_succ_self _⟩
    | .identifier => .ok ⟨.parameter token.text, rest, Nat.lt_succ_self _⟩
    | _ => .error ⟨.expectedOperand token, token.position⟩

/-- One minus may stand before a primary. -/
def readUnary (finish : Token) (nested : Reader) : Reader
  | [] => readPrimary finish nested []
  | token :: rest =>
    match token.kind with
    | .minus => do
      let operand ← readPrimary finish nested rest
      let tree ← limitDepth (.negate operand.tree) token
      .ok ⟨tree, operand.rest, Nat.lt_trans operand.shorter (Nat.lt_succ_self _)⟩
    | _ => readPrimary finish nested (token :: rest)

/-- Operators and operands extend the tree to the left as long as operators follow. -/
def extend (operator? : Token.Kind → Option Operator) (operand : Reader) (left : Expression)
    (tokens : List Token) : Except SyntaxError (Extended tokens) :=
  match tokens with
  | [] => .ok ⟨left, [], Nat.le_refl _⟩
  | token :: rest =>
    match operator? token.kind with
    | none => .ok ⟨left, token :: rest, Nat.le_refl _⟩
    | some operator => do
      let right ← operand rest
      let tree ← limitDepth (.binary operator left right.tree) token
      let extended ← extend operator? operand tree right.rest
      .ok ⟨extended.tree, extended.rest, Nat.le_trans extended.notLonger
        (Nat.le_of_lt (Nat.lt_trans right.shorter (Nat.lt_succ_self _)))⟩
termination_by tokens.length
decreasing_by exact Nat.lt_trans right.shorter (Nat.lt_succ_self _)

/-- A first operand may be followed by operators and operands. -/
def readOperands (operator? : Token.Kind → Option Operator) (operand : Reader) : Reader :=
  fun tokens => do
    let first ← operand tokens
    let extended ← extend operator? operand first.tree first.rest
    .ok ⟨extended.tree, extended.rest, Nat.lt_of_le_of_lt extended.notLonger first.shorter⟩

def readMultiplicative (finish : Token) (nested : Reader) : Reader :=
  readOperands multiplicativeOperator? (readUnary finish nested)

def readAdditive (finish : Token) (nested : Reader) : Reader :=
  readOperands additiveOperator? (readMultiplicative finish nested)

/-- A question mark and two nested formulas may follow the condition. -/
def readTernary (finish : Token) (nested : Reader) : Reader := fun tokens => do
  let condition ← readAdditive finish nested tokens
  match follows : condition.rest with
  | [] => .ok condition
  | token :: rest =>
    match token.kind with
    | .question =>
      let thenBranch ← nested rest
      let separated ← readSymbol finish .colon thenBranch.rest
      let elseBranch ← nested separated.1
      let tree ← limitDepth (.conditional condition.tree thenBranch.tree elseBranch.tree) token
      .ok ⟨tree, elseBranch.rest, by
        have first := condition.shorter
        have second := thenBranch.shorter
        have third := separated.2
        have fourth := elseBranch.shorter
        rw [follows, List.length_cons] at first
        omega⟩
    | _ => .ok condition

/-- A formula uses one level of nesting, and it is refused where no level is left. -/
def readNested (finish : Token) : (levels : Nat) → Reader
  | 0 => fun tokens => .error ⟨.nestedTooDeeply, (current finish tokens).position⟩
  | levels + 1 => readTernary finish (readNested finish levels)

/-- The tokens form exactly one formula. -/
def readAll (finish : Token) (tokens : List Token) : Except SyntaxError Expression := do
  let parsed ← readNested finish depthLimit tokens
  match parsed.rest with
  | [] => .ok parsed.tree
  | token :: _ => .error ⟨.trailingToken token, token.position⟩

def endsInput (token : Token) : Bool := token.kind == .endOfInput

/-- The formula stands before the first token that ends the input. -/
def ofTokens (tokens : List Token) : Except SyntaxError Expression :=
  readAll ((tokens.find? endsInput).getD ⟨.endOfInput, "", 0⟩)
    (tokens.takeWhile fun token => !endsInput token)

/-- A formula text is split into tokens and read. -/
def parse (source : String) : Except SyntaxError Expression := do
  ofTokens (← Token.scan source)

end Expression

/-- A list of tokens is no stream without an end, and a stream may be no formula. -/
inductive StreamError where
  | missingEnd
  | notFormula (error : SyntaxError)

def StreamError.message : StreamError → String
  | .missingEnd => "token stream must end with EOF"
  | .notFormula error => error.message

/-- A stream of tokens has to end with the end of the input. -/
def Expression.ofStream (tokens : List Token) : Except StreamError Expression :=
  if tokens.getLast?.any endsInput then (ofTokens tokens).mapError .notFormula
  else .error .missingEnd

end Casework
