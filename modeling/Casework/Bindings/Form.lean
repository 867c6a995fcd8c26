import Casework.Bindings.Basic
import Casework.Form.Field

namespace Casework

namespace Value

open Binary64

/-- A plain form is no value when it is not finite or of another type. -/
inductive Refusal where
  | notFinite (literal : String)
  | unusable (typeName : String)
  deriving DecidableEq

def Refusal.message : Refusal → String
  | .notFinite literal => "Formula values must be finite, got " ++ literal
  | .unusable typeName => "Cannot use " ++ typeName ++ " as a formula value"

/-- No finite number is larger than this. -/
@[irreducible]
def largestWhole : Nat := (Nat.pow 2 53 - 1) * Nat.pow 2 971

/-- Flags and finite numbers are values. -/
def ofForm : Form → Except Refusal Value
  | .flag value => .ok (.boolean value)
  | .integer value =>
    match ofInt value with
    | .finite nearest =>
      if value.natAbs ≤ largestWhole then .ok (.number nearest)
      else .error (.notFinite (Decimal.integerText value))
    | _ => .error (.notFinite (Decimal.integerText value))
  | .real (.finite value) => .ok (.number value)
  | .real value => .error (.notFinite value.shortestText)
  | form => .error (.unusable form.typeName)

/-- This is the form of a value. -/
def form : Value → Form
  | .number value => .real (.finite value)
  | .boolean value => .flag value

/-- A number is not written as a flag. -/
def numberField : Form → Form.Checked Finite
  | .flag _ => Form.fault (.rule "booleans are not numbers; use Boolean")
  | form => Form.finiteField form

/-- The field `value` holds the value of a record of known kind. -/
def ofFields (kind : Kind) (fields : List (String × Form)) : Form.Checked Value :=
  match kind with
  | .number => (Form.required fields "value" numberField).map .number
  | .boolean => (Form.required fields "value" Form.strictFlagField).map .boolean

/-- A record tells the kind of its value. -/
def taggedField (form : Form) : Form.Checked Value :=
  Form.taggedField (fun kind => (Kind.ofName? kind).map ofFields) form

end Value

namespace Bindings

/-- A form of a type without values stops the reading at once, and faults are listed. -/
inductive FormError where
  | unusable (typeName : String)
  | faulty (faults : List Form.Fault)

/-- Plain forms become values at once, and records are left to be checked. -/
def readEntry : Form → Except FormError (Form.Checked Value)
  | .record fields => .ok (Value.taggedField (.record fields))
  | form =>
    match Value.ofForm form with
    | .ok value => .ok (.ok value)
    | .error (.unusable typeName) => .error (.unusable typeName)
    | .error refusal => .error (.faulty [⟨["params"], .rule refusal.message⟩])

/-- The first plain form that is no value stops the reading. -/
def readEntries : List (String × Form) → Except FormError (List (Form.Checked (String × Value)))
  | [] => .ok []
  | (name, form) :: rest => do
    let entry ← readEntry form
    let others ← readEntries rest
    .ok (Form.Checked.under name (entry.map fun value => (name, value)) :: others)

/-- The pairs bind their names when all of them are values of the right kinds. -/
def ofPairs (pairs : List (String × Form)) : Except FormError Bindings := do
  match Form.Checked.under "params" (Form.Checked.all (← readEntries pairs)) with
  | .error faults => .error (.faulty faults)
  | .ok values =>
    match ofTable (OrderedMap.ofList values) with
    | .ok bindings => .ok bindings
    | .error refusal => .error (.faulty [⟨[], .rule refusal.message⟩])

/-- A form that stands in the place of a binding set binds nothing. -/
def foreignMessage (form : Form) : String :=
  "bindings must be a BindingSet, got " ++ form.typeName

/-- A binding set is described by a record of its parameters. -/
def ofForm : Form → Except FormError Bindings
  | .record fields => ofPairs fields
  | _ => .error (.faulty [⟨["params"], .notTable⟩])

/-- The changes replace old values in their places and come after them otherwise. The result is
checked as a whole. -/
def update (bindings : Bindings) (changes : List (String × Form)) : Except FormError Bindings :=
  ofPairs ((bindings.table.mapEntries fun _ value => value.form).insertAll changes).entries

end Bindings

end Casework
