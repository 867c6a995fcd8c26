import Casework.Formula.Evaluation
import Casework.Formula.SyntaxError

namespace Casework

/-- A problem holds data for the reader of a report. -/
inductive Problem where
  | unreadable (position : Nat) (message : String)
  | undefinedParameter (name : String)
  | kindMismatch (expected found : Kind) (context : String)
  | divisionByZero
  | outOfRange (operator : String)
  | duplicateName (name : String)
  deriving DecidableEq

namespace Problem

/-- This is the wording of a problem. -/
def text : Problem → String
  | .unreadable position message => message ++ " (at position " ++ position.repr ++ ")"
  | .undefinedParameter name => "Undefined variable: " ++ name
  | .kindMismatch expected found context =>
    "Expected " ++ expected.name ++ " in " ++ context ++ ", found " ++ found.name
  | .divisionByZero => "Division by zero"
  | .outOfRange operator => "Result of '" ++ operator ++ "' is out of range"
  | .duplicateName name => "Duplicate formula name: " ++ name

end Problem

def Failure.problem : Failure → Problem
  | .undefinedParameter name => .undefinedParameter name
  | .kindMismatch expected found place => .kindMismatch expected found place.description
  | .divisionByZero => .divisionByZero
  | .outOfRange operator => .outOfRange (String.singleton operator.symbol)

def SyntaxError.problem (error : SyntaxError) : Problem :=
  .unreadable error.position error.message

end Casework
