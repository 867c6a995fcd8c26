/-
This file defines forms, the loosely typed descriptions that cabinets, templates and parameters
come in, and the faults that are found in them.
-/

import Casework.Amount
import Casework.Decimal.Layout

namespace Casework

/-- A form is a plain value, a list of forms, or a record of named forms. -/
inductive Form where
  | absent
  | flag (value : Bool)
  | integer (value : Int)
  | real (value : Binary64)
  | text (value : String)
  | list (items : List Form)
  | record (fields : List (String × Form))

namespace Form

instance : Inhabited Form := ⟨.absent⟩

/-- This word names the type of a form in messages. -/
def typeName : Form → String
  | .absent => "NoneType"
  | .flag _ => "bool"
  | .integer _ => "int"
  | .real _ => "float"
  | .text _ => "str"
  | .list _ => "list"
  | .record _ => "dict"

/-- This looks a field up by its name. -/
def field? (fields : List (String × Form)) (name : String) : Option Form :=
  fields.lookup name

/-- A plain value is an amount when it is an integer, a real number or a flag. -/
def amount? : Form → Option Amount
  | .flag value => some (.integer (if value then 1 else 0))
  | .integer value => some (.integer value)
  | .real value => some (.real value)
  | _ => none

/-- Plain values are equal when they are equal numbers or the same text, or both absent. -/
def equals (left right : Form) : Bool :=
  match left, right with
  | .absent, .absent => true
  | .text left, .text right => left == right
  | left, right =>
    match left.amount?, right.amount? with
    | some first, some second => first.equals second
    | _, _ => false

/-- These are the reasons to refuse a form. -/
inductive Cause where
  | notText
  | notNumber
  | unreadableNumber
  | notFinite
  | tooSmall
  | notInteger
  | unreadableInteger
  | longInteger
  | fractional
  | notFlag
  | unreadableFlag
  | notChoice
  | missing
  | notList
  | notTable
  | notRecord
  | noTag
  | unknownTag
  | notTagged
  | rule (message : String)
  deriving DecidableEq

/-- This is the short name of a cause. -/
def Cause.code : Cause → String
  | .notText => "string_type"
  | .notNumber => "float_type"
  | .unreadableNumber => "float_parsing"
  | .notFinite => "finite_number"
  | .tooSmall => "greater_than_equal"
  | .notInteger => "int_type"
  | .unreadableInteger => "int_parsing"
  | .longInteger => "int_parsing_size"
  | .fractional => "int_from_float"
  | .notFlag => "bool_type"
  | .unreadableFlag => "bool_parsing"
  | .notChoice => "enum"
  | .missing => "missing"
  | .notList => "list_type"
  | .notTable => "dict_type"
  | .notRecord => "model_type"
  | .noTag => "union_tag_not_found"
  | .unknownTag => "union_tag_invalid"
  | .notTagged => "model_attributes_type"
  | .rule _ => "value_error"

/-- Only a broken rule is explained in words. -/
def Cause.message? : Cause → Option String
  | .rule message => some ("Value error, " ++ message)
  | _ => none

/-- A fault is a cause at the end of a path of names. -/
structure Fault where
  path : List String
  cause : Cause
  deriving DecidableEq

/-- A check accepts a value or lists the faults of a form. -/
abbrev Checked (Accepted : Type) := Except (List Fault) Accepted

namespace Checked

variable {Argument Result : Type}

/-- The faults of both checks are listed, those of the function first. -/
def apply (function : Checked (Argument → Result)) (argument : Checked Argument) :
    Checked Result :=
  match function, argument with
  | .ok function, .ok argument => .ok (function argument)
  | .ok _, .error faults => .error faults
  | .error faults, .ok _ => .error faults
  | .error first, .error second => .error (first ++ second)

/-- Every fault is found below the given name. -/
def under (name : String) (checked : Checked Result) : Checked Result :=
  checked.mapError fun faults => faults.map fun fault => { fault with path := name :: fault.path }

/-- The faults of all checks are listed in order. -/
def all : List (Checked Result) → Checked (List Result)
  | [] => .ok []
  | first :: rest => apply (apply (.ok List.cons) first) (all rest)

@[simp]
theorem apply_ok (function : Argument → Result) (argument : Argument) :
    apply (.ok function) (.ok argument) = .ok (function argument) := rfl

@[simp]
theorem apply_eq_ok_iff (function : Checked (Argument → Result)) (argument : Checked Argument)
    (result : Result) :
    apply function argument = .ok result ↔
      ∃ image value, function = .ok image ∧ argument = .ok value ∧ image value = result := by
  unfold apply
  split <;> simp

/-- A list of checks accepts exactly the list of values that the checks accept. -/
theorem all_eq_ok_iff (checks : List (Checked Result)) (values : List Result) :
    all checks = .ok values ↔ checks = values.map .ok := by
  induction checks generalizing values with
  | nil => cases values <;> simp [all]
  | cons first rest inductionHypothesis =>
      unfold all
      rw [apply_eq_ok_iff]
      constructor
      · rintro ⟨image, others, front, back, joined⟩
        rw [apply_eq_ok_iff] at front
        obtain ⟨_, value, same, accepted, equal⟩ := front
        cases same
        rw [← joined, ← equal, accepted, (inductionHypothesis others).mp back]
        rfl
      · intro equal
        cases values with
        | nil => simp at equal
        | cons value others =>
            rw [List.map_cons, List.cons.injEq] at equal
            refine ⟨List.cons value, others, ?_, (inductionHypothesis others).mpr equal.2, rfl⟩
            rw [equal.1]
            rfl

end Checked

def fault (cause : Cause) {Accepted : Type} : Checked Accepted := .error [⟨[], cause⟩]

/-- A required field has to be there. -/
def required (fields : List (String × Form)) (name : String) {Accepted : Type}
    (check : Form → Checked Accepted) : Checked Accepted :=
  Checked.under name <|
    match field? fields name with
    | some form => check form
    | none => fault .missing

/-- A field that is not there takes its default. -/
def optional (fields : List (String × Form)) (name : String) {Accepted : Type}
    (default : Accepted) (check : Form → Checked Accepted) : Checked Accepted :=
  match field? fields name with
  | some form => Checked.under name (check form)
  | none => .ok default

end Form

end Casework
