/-
This file proves that readers look at the kinds and the texts of tokens only. When tokens move to
other positions, trees stay the same and errors move along with the tokens that they stand at.
-/

import Casework.Proofs.Formula.Acceptance
import Mathlib.Logic.Function.Basic

namespace Casework

namespace Token

/-- This is what a token is without its position. -/
def content (token : Token) : Kind × String := (token.kind, token.text)

/-- A token moves to another position. -/
def relocate (place : Nat → Nat) (token : Token) : Token :=
  { token with position := place token.position }

variable (place : Nat → Nat) (token : Token)

@[simp]
theorem kind_relocate : (token.relocate place).kind = token.kind := rfl

@[simp]
theorem text_relocate : (token.relocate place).text = token.text := rfl

/-- Tokens with the contents of others have moved there from the positions of those. -/
theorem exists_relocation {tokens moved : List Token}
    (sameContents : moved.map content = tokens.map content)
    (distinct : (tokens.map Token.position).Nodup) :
    ∃ place, moved = tokens.map (relocate place) := by
  induction tokens generalizing moved with
  | nil => exact ⟨id, List.map_eq_nil_iff.mp sameContents⟩
  | cons token rest inductionHypothesis =>
      obtain ⟨isNew, distinctRest⟩ := List.nodup_cons.mp distinct
      obtain ⟨other, others, rfl, sameContent, sameOthers⟩ := List.map_eq_cons_iff.mp sameContents
      obtain ⟨place, rfl⟩ := inductionHypothesis sameOthers distinctRest
      obtain ⟨sameKind, sameText⟩ := Prod.mk.inj sameContent
      refine ⟨Function.update place token.position other.position, ?_⟩
      have atToken :
          token.relocate (Function.update place token.position other.position) = other := by
        unfold relocate
        rw [Function.update_self, ← sameKind, ← sameText]
      have elsewhere : ∀ later ∈ rest,
          later.relocate (Function.update place token.position other.position) =
            later.relocate place := by
        intro later isLater
        have different : later.position ≠ token.position := fun equal =>
          isNew (equal ▸ List.mem_map_of_mem isLater)
        unfold relocate
        rw [Function.update_of_ne different]
      rw [List.map_cons, atToken, List.map_congr_left elsewhere]

end Token

namespace SyntaxError

/-- A cause refers to the token at its new position. -/
def Cause.relocate (place : Nat → Nat) : Cause → Cause
  | .expectedOperand found => .expectedOperand (found.relocate place)
  | .expectedSymbol kind found => .expectedSymbol kind (found.relocate place)
  | .trailingToken found => .trailingToken (found.relocate place)
  | cause => cause

def relocate (place : Nat → Nat) (error : SyntaxError) : SyntaxError :=
  ⟨error.cause.relocate place, place error.position⟩

/-- No wording shows a position. -/
theorem message_relocate (place : Nat → Nat) (error : SyntaxError) :
    (error.relocate place).message = error.message := by
  obtain ⟨cause, position⟩ := error
  cases cause <;> rfl

end SyntaxError

namespace Expression

section

variable {place : Nat → Nat} {finish token : Token} {tokens : List Token}

/-- Over relocated tokens a result has its image, and an error is relocated. -/
def relocated {Result Image : Type} (place : Nat → Nat) (image : Result → Image) :
    Except SyntaxError Result → Except SyntaxError Image
  | .ok result => .ok (image result)
  | .error error => .error (error.relocate place)

/-- Two relocated steps make a relocated run. -/
theorem relocated_bind {Argument Moved Result Image : Type} {argumentImage : Argument → Moved}
    {image : Result → Image} {first : Except SyntaxError Argument}
    {next : Argument → Except SyntaxError Result} {movedFirst : Except SyntaxError Moved}
    {movedNext : Moved → Except SyntaxError Image}
    (isFirst : movedFirst = relocated place argumentImage first)
    (isNext : ∀ argument, first = .ok argument →
      movedNext (argumentImage argument) = relocated place image (next argument)) :
    (movedFirst >>= movedNext) = relocated place image (first >>= next) := by
  rw [isFirst]
  cases first with
  | ok argument => exact isNext argument rfl
  | error error => rfl

/-- A relocated result may be finished after it is moved. -/
theorem relocated_map {Argument Moved Result Image : Type} {argumentImage : Argument → Moved}
    {image : Result → Image} {first : Except SyntaxError Argument} {finished : Argument → Result}
    {movedFirst : Except SyntaxError Moved} {movedFinished : Moved → Image}
    (isFirst : movedFirst = relocated place argumentImage first)
    (isFinished : ∀ argument, movedFinished (argumentImage argument) = image (finished argument)) :
    movedFirst.map movedFinished = relocated place image (first.map finished) := by
  rw [isFirst]
  cases first with
  | ok argument => exact congrArg Except.ok (isFinished argument)
  | error error => rfl

/-- The tree of a run stays and the tokens after it move. -/
def relocateRest (place : Nat → Nat) (read : Expression × List Token) :
    Expression × List Token :=
  (read.1, read.2.map (Token.relocate place))

/-- A reader relocates to another one when both agree on all tokens. -/
def Reader.Relocates (place : Nat → Nat) (reader moved : Reader) : Prop :=
  ∀ tokens, moved.run (tokens.map (Token.relocate place)) =
    relocated place (relocateRest place) (reader.run tokens)

/-- The depth of a tree does not depend on places. -/
theorem limitDepth_relocate (tree : Expression) (token : Token) :
    limitDepth tree (token.relocate place) = relocated place id (limitDepth tree token) := by
  unfold limitDepth
  split <;> rfl

/-- A number is read from its text, and only its error has a place. -/
theorem readNumber_relocate (token : Token) :
    readNumber (token.relocate place) = relocated place id (readNumber token) := by
  unfold readNumber
  rw [Token.text_relocate]
  split <;> rfl

/-- A symbol is looked for by its kind. -/
theorem runSymbol_relocate (finish : Token) (kind : Token.Kind) (tokens : List Token) :
    runSymbol (finish.relocate place) kind (tokens.map (Token.relocate place)) =
      relocated place (List.map (Token.relocate place)) (runSymbol finish kind tokens) := by
  cases tokens with
  | nil => rfl
  | cons token rest =>
      rw [List.map_cons, runSymbol_cons, runSymbol_cons, Token.kind_relocate]
      split <;> rfl

variable {reader nested moved : Reader}

/-- Moved tokens give the same operand. -/
theorem relocates_readPrimary (relocates : nested.Relocates place moved) :
    Reader.Relocates place (readPrimary finish nested)
      (readPrimary (finish.relocate place) moved) := by
  intro tokens
  cases tokens with
  | nil => rfl
  | cons token rest =>
      rw [List.map_cons, run_readPrimary_cons, run_readPrimary_cons, Token.kind_relocate]
      split
      · exact relocated_bind (relocates rest) fun inner _ =>
          relocated_bind (runSymbol_relocate finish .rightParen inner.2) fun after _ => rfl
      · exact relocated_bind (readNumber_relocate token) fun value _ => rfl
      · rfl
      · rfl

/-- Moved tokens give the same signed operand. -/
theorem relocates_readUnary (relocates : nested.Relocates place moved) :
    Reader.Relocates place (readUnary finish nested)
      (readUnary (finish.relocate place) moved) := by
  have primary : Reader.Relocates place (readPrimary finish nested)
      (readPrimary (finish.relocate place) moved) := relocates_readPrimary relocates
  intro tokens
  cases tokens with
  | nil => rfl
  | cons token rest =>
      by_cases isMinus : token.kind = .minus
      · have movedMinus : (token.relocate place).kind = .minus := isMinus
        rw [List.map_cons, run_readUnary_minus nested rest isMinus,
          run_readUnary_minus moved _ movedMinus]
        exact relocated_bind (primary rest) fun operand _ =>
          relocated_map (limitDepth_relocate (.negate operand.1) token) fun tree => rfl
      · have movedOther : (token.relocate place).kind ≠ .minus := isMinus
        rw [List.map_cons, run_readUnary_other nested rest isMinus,
          run_readUnary_other moved _ movedOther]
        exact primary (token :: rest)

/-- Loops relocate because they ask for the kinds of operators only. -/
theorem runExtend_relocate (operator? : Token.Kind → Option Operator)
    (relocates : reader.Relocates place moved) (left : Expression) (tokens : List Token) :
    runExtend operator? moved left (tokens.map (Token.relocate place)) =
      relocated place (relocateRest place) (runExtend operator? reader left tokens) := by
  induction left, tokens using extend.induct operator? with
  | case1 left =>
      rw [List.map_nil, runExtend_nil, runExtend_nil]
      rfl
  | case2 left token rest ends =>
      have movedEnds : operator? (token.relocate place).kind = none := ends
      rw [List.map_cons, runExtend_none reader left rest ends,
        runExtend_none moved left _ movedEnds]
      rfl
  | case3 left token rest operator goesOn inductionHypothesis =>
      have movedGoesOn : operator? (token.relocate place).kind = some operator := goesOn
      rw [List.map_cons, runExtend_some reader left rest goesOn,
        runExtend_some moved left _ movedGoesOn]
      refine relocated_bind (relocates rest) fun right isRight => ?_
      obtain ⟨parsed, _, rfl⟩ := Except.map_eq_ok_iff.mp isRight
      exact relocated_bind (limitDepth_relocate (.binary operator left parsed.tree) token)
        fun tree _ => inductionHypothesis parsed tree

/-- Moved tokens give the same operation. -/
theorem relocates_readOperands (operator? : Token.Kind → Option Operator)
    (relocates : reader.Relocates place moved) :
    Reader.Relocates place (readOperands operator? reader) (readOperands operator? moved) := by
  intro tokens
  rw [run_readOperands, run_readOperands]
  exact relocated_bind (relocates tokens) fun first _ =>
    runExtend_relocate operator? relocates first.1 first.2

theorem relocates_readAdditive (relocates : nested.Relocates place moved) :
    Reader.Relocates place (readAdditive finish nested)
      (readAdditive (finish.relocate place) moved) :=
  relocates_readOperands additiveOperator?
    (relocates_readOperands multiplicativeOperator? (relocates_readUnary relocates))

/-- Moved tokens give the same branches. -/
theorem runBranches_relocate (relocates : nested.Relocates place moved) (condition : Expression)
    (question : Token) (tokens : List Token) :
    runBranches (finish.relocate place) moved condition (question.relocate place)
        (tokens.map (Token.relocate place)) =
      relocated place (relocateRest place)
        (runBranches finish nested condition question tokens) :=
  relocated_bind (relocates tokens) fun thenBranch _ =>
    relocated_bind (runSymbol_relocate finish .colon thenBranch.2) fun separated _ =>
      relocated_bind (relocates separated) fun _ _ =>
        relocated_map (limitDepth_relocate _ question) fun _ => rfl

/-- Moved tokens give the same conditional. -/
theorem relocates_readTernary (relocates : nested.Relocates place moved) :
    Reader.Relocates place (readTernary finish nested)
      (readTernary (finish.relocate place) moved) := by
  intro tokens
  rw [run_readTernary, run_readTernary]
  refine relocated_bind (relocates_readAdditive relocates tokens) fun condition _ => ?_
  obtain ⟨tree, after⟩ := condition
  cases after with
  | nil => rfl
  | cons token rest =>
      simp only [relocateRest, List.map_cons, runAfterCondition, Token.kind_relocate]
      split
      · exact runBranches_relocate relocates tree token rest
      · rfl

/-- Moved tokens give the same formula on every level. -/
theorem relocates_readNested (limit : Nat) :
    Reader.Relocates place (readNested finish limit)
      (readNested (finish.relocate place) limit) := by
  induction limit with
  | zero =>
      intro tokens
      cases tokens <;> rfl
  | succ limit inductionHypothesis => exact relocates_readTernary inductionHypothesis

/-- Tokens at other positions form the same formula, or their error stands at the token that the
other error stands at. -/
theorem readAll_relocate (place : Nat → Nat) (finish : Token) (tokens : List Token) :
    readAll (finish.relocate place) (tokens.map (Token.relocate place)) =
      relocated place id (readAll finish tokens) := by
  rw [readAll_eq_run, readAll_eq_run]
  refine relocated_bind (relocates_readNested depthLimit tokens) fun parsed _ => ?_
  obtain ⟨tree, rest⟩ := parsed
  cases rest <;> rfl

end

end Expression

end Casework
