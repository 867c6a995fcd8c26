import Casework.Bindings.Basic
import Casework.Formula.Basic
import Casework.Journal

namespace Casework

/-- An outcome is a finite number or a problem. -/
abbrev Outcome := Except Problem Binary64.Finite

/-- The outcomes stand under the names of their formulas. -/
abbrev Outcomes := OrderedMap String Outcome

namespace Formula

/-- A formula text with an error has that error as its outcome. -/
def Entry.outcome (bindings : Bindings) : Entry → Outcome
  | .error error => .error error.problem
  | .ok formula => (formula.evaluate bindings.get?).mapError Failure.problem

/-- A formula without a name is called by its text. -/
def calledBy (name source : String) : String :=
  Text.quoted (if name.isEmpty then source else name)

/-- A failing evaluation is noted. -/
def Entry.evaluationNotes (bindings : Bindings) : Entry → Journal
  | .error _ => []
  | .ok formula =>
    match formula.evaluate bindings.get? with
    | .ok _ => []
    | .error failure =>
      [⟨.debug, "Formula " ++ calledBy formula.name formula.source ++ " failed: " ++
        failure.problem.text⟩]

/-- A text with an error is noted. -/
def Entry.readingNotes (name source : String) : Entry → Journal
  | .ok _ => []
  | .error error =>
    [⟨.debug, "Formula " ++ calledBy name source ++ " failed to parse: " ++ error.message⟩]

end Formula

namespace Outcomes

/-- These are the names of the outcomes that are problems. -/
def failed (outcomes : Outcomes) : List String :=
  (outcomes.entries.filter fun entry => entry.2.toOption.isNone).map Prod.fst

/-- The counts of all outcomes and of the problems are noted at the end of a batch. -/
def summary (outcomes : Outcomes) : Note :=
  ⟨.debug, "Recomputed " ++ outcomes.size.repr ++ " formulas, " ++
    (failed outcomes).length.repr ++ " failed"⟩

/-- The names of the problems are noted if there are any. -/
def failureNotes (outcomes : Outcomes) : Journal :=
  match failed outcomes with
  | [] => []
  | names =>
    [⟨.info, "Template evaluated with " ++ names.length.repr ++ " of " ++
      outcomes.size.repr ++ " formulas failing: " ++ ", ".intercalate names⟩]

end Outcomes

namespace Batch

def duplicateNote (name : String) : Note :=
  ⟨.warning, "Formula name " ++ Text.quoted name ++ " is used more than once in one batch"⟩

/-- A sweep over named entries has outcomes so far, remembers the names that came again, and is
noted. -/
structure Sweep where
  outcomes : Outcomes
  repeated : List String
  notes : Journal

namespace Sweep

def start : Sweep := ⟨.empty, [], []⟩

/-- Only the first entry of a name is evaluated. -/
def step (bindings : Bindings) (sweep : Sweep) (named : String × Formula.Entry) : Sweep :=
  if sweep.outcomes.contains named.1 then
    { sweep with repeated := sweep.repeated.insert named.1 }
  else
    { sweep with
      outcomes := sweep.outcomes.insert named.1 (named.2.outcome bindings)
      notes := sweep.notes ++ named.2.evaluationNotes bindings }

/-- The repeated names are listed in the order of their characters. -/
def duplicates (sweep : Sweep) : List String :=
  sweep.repeated.mergeSort fun first second => first ≤ second

/-- A name of several entries has no number, since nothing tells whose number it would be. -/
def finish (sweep : Sweep) : Outcomes :=
  sweep.outcomes.insertAll
    (sweep.duplicates.map fun name => (name, .error (.duplicateName name)))

/-- Repeated names are noted after the evaluations. -/
def journal (sweep : Sweep) : Journal :=
  sweep.notes ++ sweep.duplicates.map duplicateNote ++ [Outcomes.summary sweep.finish]

end Sweep

/-- The entries are taken one after the other. -/
def sweep (entries : List (String × Formula.Entry)) (bindings : Bindings) : Sweep :=
  entries.foldl (Sweep.step bindings) .start

/-- A formula stands under its own name. -/
def named (formula : Formula) : String × Formula.Entry := (formula.name, .ok formula)

/-- Every name has one outcome, in the order of first occurrence. -/
def outcomes (formulas : List Formula) (bindings : Bindings) : Outcomes :=
  (sweep (formulas.map named) bindings).finish

/-- An entry that is an error has no name to stand under. -/
inductive Refusal where
  | unnamedEntry

def Refusal.message : Refusal → String
  | .unnamedEntry => "'ParseError' object has no attribute 'name'"

/-- These are the formulas before the first entry that is an error. -/
def readable : List Formula.Entry → List Formula
  | .ok formula :: rest => formula :: readable rest
  | _ => []

/-- All entries have to be formulas. -/
def evaluateEntries (entries : List Formula.Entry) (bindings : Bindings) :
    Noted Refusal Outcomes :=
  let formulas := readable entries
  let swept := sweep (formulas.map named) bindings
  if formulas.length = entries.length then (.ok swept.finish, swept.journal)
  else (.error .unnamedEntry, swept.notes)

end Batch

end Casework
