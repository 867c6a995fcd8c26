namespace Casework

/-- Levels order records by importance. -/
inductive Level where
  | debug
  | info
  | warning
  deriving DecidableEq

namespace Level

def rank : Level → Nat
  | .debug => 0
  | .info => 1
  | .warning => 2

def name : Level → String
  | .debug => "DEBUG"
  | .info => "INFO"
  | .warning => "WARNING"

end Level

/-- A note is one line of a journal. -/
structure Note where
  level : Level
  text : String
  deriving DecidableEq

/-- A journal lists notes in the order of the work. -/
abbrev Journal := List Note

/-- Only notes of the given level and above are kept. -/
def Journal.atLeast (journal : Journal) (level : Level) : Journal :=
  journal.filter fun note => level.rank ≤ note.level.rank

/-- Noted work has a result or an error, and a journal in both cases. -/
abbrev Noted (Error Result : Type) := Except Error Result × Journal

namespace Noted

variable {Error Argument Result : Type}

/-- The second part of the work needs the result of the first, and its notes come later. -/
def andThen (first : Noted Error Argument) (next : Argument → Noted Error Result) :
    Noted Error Result :=
  match first.1 with
  | .error error => (.error error, first.2)
  | .ok argument => ((next argument).1, first.2 ++ (next argument).2)

@[simp]
theorem andThen_ok (argument : Argument) (next : Argument → Noted Error Result) :
    andThen (.ok argument, []) next = next argument := rfl

end Noted

end Casework
