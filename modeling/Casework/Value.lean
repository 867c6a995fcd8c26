import Casework.Decimal.Layout
import Casework.Text.Quoted

namespace Casework

/-- A value is a number or a flag. -/
inductive Kind where
  | number
  | boolean
  deriving DecidableEq

def Kind.name : Kind → String
  | .number => "number"
  | .boolean => "boolean"

def Kind.ofName? : String → Option Kind
  | "number" => some .number
  | "boolean" => some .boolean
  | _ => none

/-- This message refuses a name that no kind has. -/
def Kind.unknownMessage (name : String) : String :=
  Text.quoted name ++ " is not a valid ValueKind"

/-- A number is always finite. -/
inductive Value where
  | number (value : Binary64.Finite)
  | boolean (value : Bool)
  deriving DecidableEq

namespace Value

open Binary64

def kind : Value → Kind
  | .number _ => .number
  | .boolean _ => .boolean

def one : Finite := ⟨false, unitsPerOne, by decide +kernel⟩

/-- In arithmetic a set flag counts as one and a cleared flag as zero. -/
def asNumber : Value → Finite
  | .number value => value
  | .boolean true => one
  | .boolean false => .zero

/-- A number is written with at most six significant digits. -/
def text : Value → String
  | .number value => (Binary64.finite value).generalText
  | .boolean true => "true"
  | .boolean false => "false"

end Value

@[simp]
theorem Kind.ofName_name (kind : Kind) : Kind.ofName? kind.name = some kind := by
  cases kind <;> rfl

end Casework
