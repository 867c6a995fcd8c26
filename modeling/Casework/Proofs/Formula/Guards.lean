/-
This file evaluates trees on all of binary64, where arithmetic can meet infinities, a plain
division refuses a zero divisor and a number value refuses what is not finite. It proves that the
guards of evaluation keep all of this from happening.
-/

import Casework.Batch
import Casework.ToMathlib.Except

namespace Casework

/-- A wide value is a flag or any binary64 number. -/
inductive WideValue where
  | number (value : Binary64)
  | boolean (value : Bool)

def Value.widen : Value → WideValue
  | .number value => .number (.finite value)
  | .boolean value => .boolean value

/-- An evaluation can fail. Without its guards it could also refuse a number value for not being
finite, or refuse to divide by zero. -/
inductive Interruption where
  | failure (cause : Failure)
  | notFinite (value : Binary64)
  | zeroDivisor

/-- A step of arithmetic meets some numbers and produces one. -/
structure Step where
  operands : List Binary64
  result : Binary64

/-- The operands are finite, and the result is a number. -/
def Step.Proper (step : Step) : Prop :=
  (∀ operand ∈ step.operands, ∃ value, operand = .finite value) ∧ step.result ≠ .notNumber

/-- A trace has a result or an interruption, and the steps of arithmetic up to there. -/
structure Trace (Result : Type) where
  outcome : Except Interruption Result
  steps : List Step

namespace Trace

variable {Argument Result Narrow Next : Type}

def done (result : Result) : Trace Result := ⟨.ok result, []⟩

def stop (interruption : Interruption) : Trace Result := ⟨.error interruption, []⟩

/-- One step of arithmetic produces a number. -/
def produce (operands : List Binary64) (result : Binary64) : Trace Binary64 :=
  ⟨.ok result, [⟨operands, result⟩]⟩

/-- The second part needs the result of the first, and its steps come later. -/
def andThen (first : Trace Argument) (next : Argument → Trace Result) : Trace Result :=
  match first.outcome with
  | .error interruption => ⟨.error interruption, first.steps⟩
  | .ok argument => ⟨(next argument).outcome, first.steps ++ (next argument).steps⟩

/-- A trace follows a guarded evaluation when it ends like that and all its steps are proper. -/
def Follows (trace : Trace Result) (widen : Narrow → Result) (guarded : Except Failure Narrow) :
    Prop :=
  trace.outcome = (guarded.map widen).mapError .failure ∧ ∀ step ∈ trace.steps, step.Proper

/-- A finished trace follows its result. -/
theorem follows_done (widen : Narrow → Result) (result : Narrow) :
    (done (widen result)).Follows widen (.ok result) :=
  ⟨rfl, by simp [done]⟩

/-- A stopped trace follows its failure. -/
theorem follows_stop (widen : Narrow → Result) (failure : Failure) :
    (stop (.failure failure)).Follows widen (.error failure) :=
  ⟨rfl, by simp [stop]⟩

/-- Traces follow in parts what evaluations do in parts. -/
theorem Follows.andThen {first : Trace Argument} {widenArgument : Narrow → Argument}
    {guarded : Except Failure Narrow} (follows : first.Follows widenArgument guarded)
    {next : Argument → Trace Result} {widen : Next → Result}
    {guardedNext : Narrow → Except Failure Next}
    (followsNext : ∀ argument,
      (next (widenArgument argument)).Follows widen (guardedNext argument)) :
    (first.andThen next).Follows widen (guarded >>= guardedNext) := by
  obtain ⟨ends, proper⟩ := follows
  cases guarded with
  | error failure =>
      replace ends : first.outcome = .error (.failure failure) := ends
      unfold Trace.andThen
      rw [ends]
      exact ⟨rfl, proper⟩
  | ok argument =>
      replace ends : first.outcome = .ok (widenArgument argument) := ends
      obtain ⟨nextEnds, nextProper⟩ := followsNext argument
      unfold Trace.andThen
      rw [ends]
      exact ⟨nextEnds, List.forall_mem_append.mpr ⟨proper, nextProper⟩⟩

end Trace

namespace WideValue

/-- In arithmetic a set flag counts as one and a cleared flag as zero. -/
def asNumber : WideValue → Binary64
  | .number value => value
  | .boolean true => .finite Value.one
  | .boolean false => .zero

/-- A number value has to be finite. -/
def ofNumber (value : Binary64) : Trace WideValue :=
  if value.finite?.isSome then .done (.number value) else .stop (.notFinite value)

/-- A result has to be a number. -/
def toNumber : WideValue → Trace Binary64
  | .number value => .done value
  | .boolean _ => .stop (.failure (.kindMismatch .number .boolean .result))

/-- A value counts as the same number in wide arithmetic. -/
theorem asNumber_widen (value : Value) : value.widen.asNumber = .finite value.asNumber := by
  cases value with
  | number value => rfl
  | boolean flag => cases flag <;> rfl

/-- A finite number passes the check of values. -/
theorem follows_ofNumber (value : Binary64.Finite) :
    (ofNumber (.finite value)).Follows Value.widen (.ok (.number value)) :=
  Trace.follows_done Value.widen (.number value)

end WideValue

namespace Operator

/-- An infinite sum, product or quotient is a result here. -/
def wide (operator : Operator) (left right : Binary64) : Binary64 :=
  match operator with
  | .add => left.add right
  | .sub => left.add right.negate
  | .mul => left.mul right
  | .div => left.div right

/-- A plain division refuses a zero divisor. -/
def applyPlain (operator : Operator) (left right : Binary64) : Trace Binary64 :=
  if operator = .div ∧ right.isZero then .stop .zeroDivisor
  else .produce [left, right] (operator.wide left right)

/-- The divisor is looked at before the operation, and the result after it. -/
def applyGuarded (operator : Operator) (left right : Binary64) : Trace WideValue :=
  if operator = .div ∧ right.isZero then .stop (.failure .divisionByZero)
  else (operator.applyPlain left right).andThen fun result =>
    if result.finite?.isSome then WideValue.ofNumber result
    else .stop (.failure (.outOfRange operator))

/-- On finite operands the wide operations are those of the numbers. -/
theorem wide_finite (operator : Operator) (left right : Binary64.Finite) :
    operator.wide (.finite left) (.finite right) =
      match operator with
      | .add => left.add right
      | .sub => left.sub right
      | .mul => left.mul right
      | .div => left.div right := by
  cases operator <;> rfl

/-- Finite operands have a number as their result, unless the divisor is zero. -/
theorem wide_ne_notNumber {operator : Operator} {left right : Binary64.Finite}
    (noZero : ¬ (operator = .div ∧ right.isZero = true)) :
    operator.wide (.finite left) (.finite right) ≠ .notNumber := by
  cases operator with
  | add => exact left.add_ne_notNumber right
  | sub => exact left.add_ne_notNumber right.negate
  | mul => exact left.mul_ne_notNumber right
  | div => exact Binary64.Finite.div_ne_notNumber (by simpa using noZero)

/-- With no zero divisor an operator gives the wide result when that is finite. -/
theorem apply_eq_wide {operator : Operator} {left right : Binary64.Finite}
    (noZero : ¬ (operator = .div ∧ right.isZero = true)) :
    operator.apply left right =
      match operator.wide (.finite left) (.finite right) with
      | .finite value => .ok value
      | _ => .error (.outOfRange operator) := by
  rw [wide_finite]
  exact if_neg noZero

/-- The guards fail exactly where the operator does. -/
theorem follows_applyGuarded (operator : Operator) (left right : Binary64.Finite) :
    (operator.applyGuarded (.finite left) (.finite right)).Follows Value.widen
      ((operator.apply left right).map .number) := by
  unfold applyGuarded applyPlain
  by_cases zero : operator = .div ∧ (Binary64.finite right).isZero = true
  · rw [if_pos zero, (apply_eq_divisionByZero_iff operator left right).mpr zero]
    exact Trace.follows_stop Value.widen .divisionByZero
  · rw [if_neg zero, if_neg zero, apply_eq_wide zero]
    have isNumber : operator.wide (.finite left) (.finite right) ≠ .notNumber :=
      wide_ne_notNumber zero
    have proper : Step.Proper ⟨[.finite left, .finite right],
        operator.wide (.finite left) (.finite right)⟩ :=
      ⟨List.forall_mem_cons.mpr ⟨⟨left, rfl⟩, List.forall_mem_singleton.mpr ⟨right, rfl⟩⟩,
        isNumber⟩
    unfold Trace.andThen
    cases produced : operator.wide (.finite left) (.finite right) with
    | finite value =>
        rw [produced] at proper
        exact ⟨rfl, List.forall_mem_singleton.mpr proper⟩
    | infinite negative =>
        rw [produced] at proper
        exact ⟨rfl, List.forall_mem_singleton.mpr proper⟩
    | notNumber => exact absurd produced isNumber

end Operator

namespace Expression

/-- Values are read as they are, and all arithmetic is that of binary64. -/
def evaluateWide (parameters : String → Option Value) : Expression → Trace WideValue
  | .number value => WideValue.ofNumber (.finite value)
  | .parameter name =>
    match parameters name with
    | some value => .done value.widen
    | none => .stop (.failure (.undefinedParameter name))
  | .negate operand =>
    (operand.evaluateWide parameters).andThen fun value =>
      (Trace.produce [value.asNumber] value.asNumber.negate).andThen WideValue.ofNumber
  | .binary operator left right =>
    (left.evaluateWide parameters).andThen fun leftValue =>
      (right.evaluateWide parameters).andThen fun rightValue =>
        operator.applyGuarded leftValue.asNumber rightValue.asNumber
  | .conditional condition thenBranch elseBranch =>
    (condition.evaluateWide parameters).andThen fun
      | .boolean true => thenBranch.evaluateWide parameters
      | .boolean false => elseBranch.evaluateWide parameters
      | .number _ => .stop (.failure (.kindMismatch .boolean .number .condition))

/-- The wide evaluation ends like the evaluation, and it takes proper steps only. -/
theorem follows_evaluateWide (parameters : String → Option Value) (tree : Expression) :
    (tree.evaluateWide parameters).Follows Value.widen (tree.evaluate parameters) := by
  induction tree with
  | number value => exact WideValue.follows_ofNumber value
  | parameter name =>
      unfold evaluateWide evaluate
      cases parameters name with
      | none => exact Trace.follows_stop Value.widen _
      | some value => exact Trace.follows_done Value.widen value
  | negate operand inductionHypothesis =>
      refine inductionHypothesis.andThen fun value => ?_
      rw [WideValue.asNumber_widen]
      exact ⟨rfl, List.forall_mem_singleton.mpr
        ⟨List.forall_mem_singleton.mpr ⟨value.asNumber, rfl⟩, Binary64.noConfusion⟩⟩
  | binary operator left right leftHypothesis rightHypothesis =>
      refine leftHypothesis.andThen fun leftValue => rightHypothesis.andThen fun rightValue => ?_
      rw [WideValue.asNumber_widen, WideValue.asNumber_widen]
      exact operator.follows_applyGuarded leftValue.asNumber rightValue.asNumber
  | conditional condition thenBranch elseBranch first second third =>
      refine first.andThen fun value => ?_
      match value with
      | .boolean true => exact second
      | .boolean false => exact third
      | .number _ => exact Trace.follows_stop Value.widen _

/-- The result of a formula is a number, or the evaluation is stopped. -/
def evaluateNumberWide (parameters : String → Option Value) (tree : Expression) :
    Trace Binary64 :=
  (tree.evaluateWide parameters).andThen WideValue.toNumber

/-- A trace of a whole formula ends like its evaluation. -/
theorem follows_evaluateNumberWide (parameters : String → Option Value) (tree : Expression) :
    (tree.evaluateNumberWide parameters).Follows Binary64.finite
      (tree.evaluateNumber parameters) := by
  refine (follows_evaluateWide parameters tree).andThen fun value => ?_
  cases value with
  | number result => exact Trace.follows_done Binary64.finite result
  | boolean flag => exact Trace.follows_stop Binary64.finite _

/-- With all arithmetic on binary64, a tree evaluates to a flag or to a finite number, or it fails
for one of the causes of evaluation, like the evaluation itself. Every operand on the way is finite,
and what an operation produces is a number or an infinity. The outcome of a formula is a finite
number or the problem of such a failure. -/
theorem evaluateWide_closed (tree : Expression) (bindings : Bindings) :
    let trace := tree.evaluateWide bindings.get?
    ((∃ flag, trace.outcome = .ok (.boolean flag)) ∨
      (∃ result : Binary64.Finite, trace.outcome = .ok (.number (.finite result))) ∨
      ∃ failure : Failure, trace.outcome = .error (.failure failure)) ∧
    (∀ step ∈ trace.steps,
      (∀ operand ∈ step.operands, ∃ value, operand = .finite value) ∧
        step.result ≠ .notNumber) ∧
    trace.outcome = ((tree.evaluate bindings.get?).map Value.widen).mapError .failure ∧
    ∀ name source,
      (∃ result : Binary64.Finite,
        (tree.evaluateNumberWide bindings.get?).outcome = .ok (.finite result) ∧
        Formula.Entry.outcome bindings (.ok ⟨name, source, tree⟩) = .ok result) ∨
      ∃ failure : Failure,
        (tree.evaluateNumberWide bindings.get?).outcome = .error (.failure failure) ∧
        Formula.Entry.outcome bindings (.ok ⟨name, source, tree⟩) = .error failure.problem := by
  intro trace
  obtain ⟨ends, proper⟩ := follows_evaluateWide bindings.get? tree
  have numberEnds := (follows_evaluateNumberWide bindings.get? tree).1
  refine ⟨?_, proper, ends, fun name source => ?_⟩
  · cases evaluated : tree.evaluate bindings.get? with
    | error failure =>
        rw [evaluated] at ends
        exact .inr (.inr ⟨failure, ends⟩)
    | ok value =>
        rw [evaluated] at ends
        cases value with
        | boolean flag => exact .inl ⟨flag, ends⟩
        | number result => exact .inr (.inl ⟨result, ends⟩)
  · have outcome : Formula.Entry.outcome bindings (.ok ⟨name, source, tree⟩) =
        (tree.evaluateNumber bindings.get?).mapError Failure.problem := rfl
    rw [outcome]
    cases evaluated : tree.evaluateNumber bindings.get? with
    | error failure =>
        rw [evaluated] at numberEnds
        exact .inr ⟨failure, numberEnds, rfl⟩
    | ok result =>
        rw [evaluated] at numberEnds
        exact .inl ⟨result, numberEnds, rfl⟩

end Expression

end Casework
