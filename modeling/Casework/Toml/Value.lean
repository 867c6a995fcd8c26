import Casework.Text.Quoted
import Casework.Toml.Moment

namespace Casework.Toml

/-- A value is a scalar, a list of values, or a table of named values. -/
inductive Value where
  | text (value : String)
  | integer (value : Int)
  | real (value : Binary64)
  | boolean (value : Bool)
  | date (value : Date)
  | time (value : Time)
  | moment (value : Moment)
  | list (items : List Value)
  | table (fields : List (String × Value))

/-- A document is a table. -/
abbrev Document := List (String × Value)

namespace Value

instance : Inhabited Value := ⟨.boolean false⟩

def field? (fields : List (String × Value)) (name : String) : Option Value :=
  fields.lookup name

/-- This word names the type of a value in messages. -/
def typeName : Value → String
  | .text _ => "str"
  | .integer _ => "int"
  | .real _ => "float"
  | .boolean _ => "bool"
  | .date _ => "datetime.date"
  | .time _ => "datetime.time"
  | .moment _ => "datetime.datetime"
  | .list _ => "list"
  | .table _ => "dict"

def booleanLiteral (value : Bool) : String := if value then "True" else "False"

mutual

/-- This text shows a value with its quotes and brackets. -/
def literal : Value → String
  | .text value => Text.quoted value
  | .integer value => Decimal.integerText value
  | .real value => value.shortestText
  | .boolean value => booleanLiteral value
  | .date value => value.literal
  | .time value => value.literal
  | .moment value => value.literal
  | .list items => "[" ++ ", ".intercalate (itemLiterals items) ++ "]"
  | .table fields => "\x7b" ++ ", ".intercalate (fieldLiterals fields) ++ "\x7d"

def itemLiterals : List Value → List String
  | [] => []
  | item :: rest => item.literal :: itemLiterals rest

def fieldLiterals : List (String × Value) → List String
  | [] => []
  | (name, value) :: rest => (Text.quoted name ++ ": " ++ value.literal) :: fieldLiterals rest

end

mutual

/-- A value with an integer of too many digits has no text that shows it. -/
def hasLongInteger : Value → Bool
  | .integer value => Decimal.isLong value
  | .list items => itemsHaveLongInteger items
  | .table fields => fieldsHaveLongInteger fields
  | _ => false

def itemsHaveLongInteger : List Value → Bool
  | [] => false
  | item :: rest => item.hasLongInteger || itemsHaveLongInteger rest

def fieldsHaveLongInteger : List (String × Value) → Bool
  | [] => false
  | (_, value) :: rest => value.hasLongInteger || fieldsHaveLongInteger rest

end

/-- This text is plain for scalars and shows the brackets of lists and tables. -/
def plainText : Value → String
  | .text value => value
  | .date value => String.ofList value.characters
  | .time value => String.ofList value.characters
  | .moment value => String.ofList value.characters
  | value => value.literal

end Value

end Casework.Toml
