/-
This file defines the grammar of formulas. A derivation is data that shows how tokens form a
phrase of a formula, and nothing in it says how a formula is read.
-/

import Casework.Decimal.Reading
import Casework.Formula.Expression
import Casework.Formula.Token

namespace Casework.Grammar

/-- Operators of one rank bind equally tightly. -/
inductive Rank where
  | additive
  | multiplicative
  deriving DecidableEq

def Rank.operators : Rank → List Operator
  | .additive => [.add, .sub]
  | .multiplicative => [.mul, .div]

/-- These are the kinds of phrases in formulas. A sum is an operation of additive rank, and a
product is one of multiplicative rank. -/
inductive Phrase where
  | formula
  | operation (rank : Rank)
  | signed
  | operand
  deriving DecidableEq

/-- Operations of a rank join phrases that bind more tightly. -/
def Rank.item : Rank → Phrase
  | .additive => .operation .multiplicative
  | .multiplicative => .signed

/-- A token stands for an operator when it is the symbol of the operator. -/
def StandsFor (token : Token) (operator : Operator) : Prop :=
  token.kind.symbol? = some operator.symbol

/-- A derivation of a phrase has one constructor for every rule of the grammar and holds the
tokens that the rule asks for. Operators of one rank join from the left. -/
inductive Derivation : Phrase → Type where
  | number (token : Token) (isNumber : token.kind = .number) : Derivation .operand
  | parameter (token : Token) (isIdentifier : token.kind = .identifier) : Derivation .operand
  | parentheses (opening closing : Token) (opens : opening.kind = .leftParen)
      (closes : closing.kind = .rightParen) (inner : Derivation .formula) : Derivation .operand
  | unsigned (operand : Derivation .operand) : Derivation .signed
  | negated (minus : Token) (isMinus : minus.kind = .minus) (operand : Derivation .operand) :
      Derivation .signed
  | lone {rank : Rank} (item : Derivation rank.item) : Derivation (.operation rank)
  | joined {rank : Rank} (left : Derivation (.operation rank)) (symbol : Token)
      (operator : Operator) (ranked : operator ∈ rank.operators)
      (stands : StandsFor symbol operator) (right : Derivation rank.item) :
      Derivation (.operation rank)
  | unconditional (sum : Derivation (.operation .additive)) : Derivation .formula
  | conditional (condition : Derivation (.operation .additive)) (question colon : Token)
      (asks : question.kind = .question) (separates : colon.kind = .colon)
      (thenBranch elseBranch : Derivation .formula) : Derivation .formula

/-- A numeral denotes the finite number that it is read as, if there is one. -/
def literal? (text : String) : Option Binary64.Finite :=
  (Decimal.read? text).bind Binary64.finite?

namespace Derivation

/-- These are the tokens of the phrase in their order. -/
def tokens : {phrase : Phrase} → Derivation phrase → List Token
  | _, .number token _ => [token]
  | _, .parameter token _ => [token]
  | _, .parentheses opening closing _ _ inner => opening :: (inner.tokens ++ [closing])
  | _, .unsigned operand => operand.tokens
  | _, .negated minus _ operand => minus :: operand.tokens
  | _, .lone item => item.tokens
  | _, .joined left symbol _ _ _ right => left.tokens ++ symbol :: right.tokens
  | _, .unconditional sum => sum.tokens
  | _, .conditional condition question colon _ _ thenBranch elseBranch =>
    condition.tokens ++ question :: (thenBranch.tokens ++ colon :: elseBranch.tokens)

/-- The count of levels is that of formulas inside formulas, where the branches of a conditional
and the inside of parentheses are formulas. -/
def levels : {phrase : Phrase} → Derivation phrase → Nat
  | _, .number _ _ => 0
  | _, .parameter _ _ => 0
  | _, .parentheses _ _ _ _ inner => inner.levels
  | _, .unsigned operand => operand.levels
  | _, .negated _ _ operand => operand.levels
  | _, .lone item => item.levels
  | _, .joined left _ _ _ _ right => max left.levels right.levels
  | _, .unconditional sum => sum.levels + 1
  | _, .conditional condition _ _ _ _ thenBranch elseBranch =>
    max condition.levels (max thenBranch.levels elseBranch.levels) + 1

/-- This is the tree of the phrase. There is none when a numeral denotes no finite number. -/
def tree? : {phrase : Phrase} → Derivation phrase → Option Expression
  | _, .number token _ => (literal? token.text).map .number
  | _, .parameter token _ => some (.parameter token.text)
  | _, .parentheses _ _ _ _ inner => inner.tree?
  | _, .unsigned operand => operand.tree?
  | _, .negated _ _ operand => operand.tree?.map .negate
  | _, .lone item => item.tree?
  | _, .joined left _ operator _ _ right => do
    some (.binary operator (← left.tree?) (← right.tree?))
  | _, .unconditional sum => sum.tree?
  | _, .conditional condition _ _ _ _ thenBranch elseBranch => do
    some (.conditional (← condition.tree?) (← thenBranch.tree?) (← elseBranch.tree?))

end Derivation

/-- The tokens begin a formula when some tokens after them complete it. -/
def Begins (tokens : List Token) : Prop :=
  ∃ (rest : List Token) (derivation : Derivation .formula), derivation.tokens = tokens ++ rest

/-- A formula has at least one level. -/
theorem Derivation.levels_pos (derivation : Derivation .formula) : 0 < derivation.levels := by
  cases derivation with
  | unconditional => exact Nat.succ_pos _
  | conditional => exact Nat.succ_pos _

end Casework.Grammar
