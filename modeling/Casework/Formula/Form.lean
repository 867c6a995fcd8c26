import Casework.Form.Field
import Casework.Formula.Basic

namespace Casework

open Form

namespace Expression

/-- The literal of a tree is a finite number. -/
def numberOfFields (fields : List (String × Form)) : Checked Expression :=
  (required fields "value" finiteField).map .number

/-- The name of a parameter is any text. -/
def parameterOfFields (fields : List (String × Form)) : Checked Expression :=
  (required fields "name" textField).map .parameter

/-- A form that stands in the place of a tree has no value. -/
def foreignMessage (form : Form) : String := "Unknown expression type: " ++ form.typeName

/-- Trees are of these sorts. -/
def sorts : List String :=
  ["NumberLiteral", "VariableRef", "UnaryMinus", "BinaryExpr", "Conditional"]

/-- What is no tree is at fault once for every sort of trees. -/
def ofTree? (tree : Option Expression) : Checked Expression :=
  match tree with
  | some tree => .ok tree
  | none => .error (sorts.map fun sort => ⟨[sort], .notRecord⟩)

end Expression

/-- A formula has a name and a source, which are texts, and a tree. -/
def Formula.ofForms (name source : Form) (tree : Option Expression) : Checked Formula :=
  let name := Checked.under "name" (textField name)
  let source := Checked.under "source" (textField source)
  Checked.apply (Checked.apply (name.map Formula.mk) source)
    (Checked.under "expression" (Expression.ofTree? tree))

namespace Problem

def unreadableOfFields (fields : List (String × Form)) : Checked Problem :=
  let position := required fields "position" countField
  let message := required fields "message" textField
  Checked.apply (position.map Problem.unreadable) message

def kindMismatchOfFields (fields : List (String × Form)) : Checked Problem :=
  let kind (name : String) := required fields name (choiceField Kind.ofName?)
  let context := required fields "context" textField
  Checked.apply ((kind "expected").map Problem.kindMismatch) (kind "found") |>.apply context

/-- Every kind of problem has its own fields. -/
def ofFields? : String → Option (List (String × Form) → Checked Problem)
  | "parse_error" => some unreadableOfFields
  | "undefined_variable" =>
    some fun fields => (required fields "name" textField).map .undefinedParameter
  | "type_mismatch" => some kindMismatchOfFields
  | "division_by_zero" => some fun _ => .ok .divisionByZero
  | "numeric_overflow" => some fun fields => (required fields "op" textField).map .outOfRange
  | "duplicate_name" => some fun fields => (required fields "name" textField).map .duplicateName
  | _ => none

def ofForm (form : Form) : Checked Problem := taggedField ofFields? form

end Problem

end Casework
