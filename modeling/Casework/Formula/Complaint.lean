import Casework.Form.Basic
import Casework.Formula.Problem

namespace Casework

/-- A complaint states a message, places a message in a text, or is about a problem of an
evaluation. -/
inductive Complaint where
  | stated (duringEvaluation : Bool) (message : String)
  | placed (message : String) (position : Int)
  | undefinedParameter (name : String)
  | kindMismatch (expected found : Kind) (context : String)
  | divisionByZero
  | outOfRange (operator : String)
  deriving DecidableEq

namespace Complaint

/-- This word names the sort of a complaint. -/
def sort : Complaint → String
  | .stated false _ => "FormulaError"
  | .stated true _ => "FormulaEvaluationError"
  | .placed _ _ => "FormulaSyntaxError"
  | .undefinedParameter _ => "UndefinedVariableError"
  | .kindMismatch _ _ _ => "TypeMismatchError"
  | .divisionByZero => "DivisionByZeroError"
  | .outOfRange _ => "NumericOverflowError"

/-- A complaint gives no problem when it only states a message, or when its place lies before
the text. -/
inductive ReportError where
  | noProblem (sort : String)
  | faulty (faults : List Form.Fault)

def ReportError.noProblemMessage (sort : String) : String := sort ++ " has no payload"

/-- This is the problem to report. -/
def report (complaint : Complaint) : Except ReportError Problem :=
  match complaint with
  | .stated _ _ => .error (.noProblem complaint.sort)
  | .placed message (.ofNat position) => .ok (.unreadable position message)
  | .placed _ (.negSucc _) => .error (.faulty [⟨["position"], .tooSmall⟩])
  | .undefinedParameter name => .ok (.undefinedParameter name)
  | .kindMismatch expected found context => .ok (.kindMismatch expected found context)
  | .divisionByZero => .ok .divisionByZero
  | .outOfRange operator => .ok (.outOfRange operator)

/-- A problem of an evaluation has the same wording as its report. -/
def message : Complaint → String
  | .stated _ message => message
  | .placed message _ => message
  | .undefinedParameter name => (Problem.undefinedParameter name).text
  | .kindMismatch expected found context => (Problem.kindMismatch expected found context).text
  | .divisionByZero => Problem.divisionByZero.text
  | .outOfRange operator => (Problem.outOfRange operator).text

def isAboutEvaluation : Complaint → Bool
  | .stated duringEvaluation _ => duringEvaluation
  | .placed _ _ => false
  | _ => true

/-- Only a message with a place can be marked in a text. -/
def marked? (complaint : Complaint) (source : String) : Option String :=
  match complaint with
  | .placed message position => some (SyntaxError.mark source message position)
  | _ => none

end Complaint

/-- A failed evaluation is complained about in its own words. -/
def Failure.complaint : Failure → Complaint
  | .undefinedParameter name => .undefinedParameter name
  | .kindMismatch expected found place => .kindMismatch expected found place.description
  | .divisionByZero => .divisionByZero
  | .outOfRange operator => .outOfRange (String.singleton operator.symbol)

/-- An unreadable text is complained about at the place of the error. -/
def SyntaxError.complaint (error : SyntaxError) : Complaint := .placed error.message error.position

@[simp]
theorem Failure.report_complaint (failure : Failure) :
    failure.complaint.report = .ok failure.problem := by
  cases failure <;> rfl

@[simp]
theorem SyntaxError.report_complaint (error : SyntaxError) :
    error.complaint.report = .ok error.problem := rfl

end Casework
