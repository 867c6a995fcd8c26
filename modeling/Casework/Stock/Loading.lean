/-
This file reads the stock from settings.
A settings document may give a waste factor and sheets, and a text from the environment
overrides the waste factor. Unusable parts are noted and left out.
-/

import Casework.Decimal.Layout
import Casework.Journal
import Casework.Stock.Basic
import Casework.Toml.Reading

namespace Casework.Stock

/-- These are the reasons for settings to give no stock. -/
inductive LoadError where
  | missingFile
  | invalidDocument
  | deepNesting
  | longNumeral (digits : Nat)
  | longInteger
  | notTable (typeName : String)
  | notIterable (typeName : String)
  | largeInteger
  deriving DecidableEq

namespace LoadError

/-- The errors of a file have no wording of their own. -/
def message? : LoadError → Option String
  | .missingFile => none
  | .invalidDocument => none
  | .deepNesting => some "maximum recursion depth exceeded"
  | .longNumeral digits => some (Decimal.longNumeralMessage digits)
  | .longInteger => some Decimal.longMessage
  | .notTable typeName => some ("'" ++ typeName ++ "' object has no attribute 'get'")
  | .notIterable typeName => some ("'" ++ typeName ++ "' object is not iterable")
  | .largeInteger => some "int too large to convert to float"

end LoadError

/-- Numbers, flags and numerals are numbers. An integer beyond the finite numbers stops the
loading. -/
def number? : Toml.Value → Except LoadError (Option Binary64)
  | .integer value =>
    match Binary64.ofInt value with
    | .finite number => .ok (some (.finite number))
    | _ => .error .largeInteger
  | .real value => .ok (some value)
  | .boolean value => .ok (some (.ofInt (if value then 1 else 0)))
  | .text value => .ok (Decimal.read? value)
  | _ => .ok none

/-- A waste factor is not below zero. -/
def isWaste (number : Binary64) : Bool := Binary64.zero.atMost number

def wasteNote (value : Toml.Value) : Note :=
  ⟨.warning, "Invalid waste factor " ++ value.literal ++
    ". Must be a number >= 0. Defaulting to " ++ standardWaste.shortestText ++ "."⟩

/-- A note shows the value that it is about, and a value with an integer of too many digits cannot
be shown. Only a log handler that formats the note and passes its failure on meets this error. A
standard handler reports the failure itself, and the loading goes on with the result. -/
def noting {Result : Type} (value : Toml.Value) (note : Note) (result : Result) :
    Noted LoadError Result :=
  if value.hasLongInteger then (.error .longInteger, []) else (.ok result, [note])

/-- The standard waste factor stands in for a value that is no waste factor. -/
def readWaste (value : Toml.Value) : Noted LoadError Binary64 :=
  match number? value with
  | .error error => (.error error, [])
  | .ok number =>
    match number.filter isWaste with
    | some waste => (.ok waste, [])
    | none => noting value (wasteNote value) standardWaste

/-- A sheet is a table with a name that can be shown and two sides that are numbers. The fields
are looked at one after the other. -/
def sheet? : Toml.Value → Except LoadError (Option Sheet)
  | .table fields =>
    match Toml.Value.field? fields "name", Toml.Value.field? fields "width" with
    | some name, some width =>
      if name.hasLongInteger then .ok none
      else do
        match ← number? width, Toml.Value.field? fields "height" with
        | some width, some height =>
          match ← number? height with
          | some height => .ok (some ⟨name.plainText, .real width, .real height⟩)
          | none => .ok none
        | _, _ => .ok none
    | _, _ => .ok none
  | _ => .ok none

/-- A sheet with a side of zero or less has no size. -/
def hasSize (sheet : Sheet) : Bool :=
  !(sheet.width.isAtMostZero || sheet.height.isAtMostZero)

def malformedNote (entry : Toml.Value) : Note :=
  ⟨.warning, "Ignoring malformed sheet entry: " ++ entry.literal⟩

def sizeNote (sheet : Sheet) : Note :=
  ⟨.warning, "Ignoring sheet " ++ Text.quoted sheet.name ++ " with non-positive size"⟩

/-- An entry gives a sheet or is left out. -/
def readSheet (entry : Toml.Value) : Noted LoadError (Option Sheet) :=
  match sheet? entry with
  | .error error => (.error error, [])
  | .ok none => noting entry (malformedNote entry) none
  | .ok (some sheet) =>
    if hasSize sheet then (.ok (some sheet), []) else (.ok none, [sizeNote sheet])

def readSheets : List Toml.Value → Noted LoadError (List Sheet)
  | [] => (.ok [], [])
  | entry :: rest =>
    (readSheet entry).andThen fun sheet =>
      (readSheets rest).andThen fun sheets => (.ok (sheet.toList ++ sheets), [])

/-- The entries of a list are its items, those of a text are its characters, and those of a
table are its names. -/
def entries? : Toml.Value → Option (List Toml.Value)
  | .list items => some items
  | .text value => some (value.toList.map fun character => .text (String.singleton character))
  | .table fields => some (fields.map fun field => .text field.1)
  | _ => none

/-- The waste factor of a document is the standard one when there is none. -/
def documentWaste (document : Toml.Document) : Noted LoadError Binary64 :=
  match Toml.Value.field? document "cutlist" with
  | none => (.ok standardWaste, [])
  | some (.table fields) =>
    match Toml.Value.field? fields "waste_factor" with
    | none => (.ok standardWaste, [])
    | some value => readWaste value
  | some value => (.error (.notTable value.typeName), [])

/-- A text that is not blank overrides the waste factor. -/
def overriddenWaste (override : String) (waste : Binary64) : Noted LoadError Binary64 :=
  match Text.trim override with
  | "" => (.ok waste, [])
  | text => readWaste (.text text)

def documentSheets (document : Toml.Document) : Noted LoadError (List Sheet) :=
  match Toml.Value.field? document "sheets" with
  | none => (.ok [], [])
  | some value =>
    match entries? value with
    | some entries => readSheets entries
    | none => (.error (.notIterable value.typeName), [])

/-- The standard sheets stand in when no sheet is left. -/
def orStandard : List Sheet → List Sheet
  | [] => standardSheets
  | sheets => sheets

/-- The waste factor is read before the sheets. -/
def ofDocument (document : Toml.Document) (override : String) : Noted LoadError Stock :=
  (documentWaste document).andThen fun waste =>
    (overriddenWaste override waste).andThen fun waste =>
      (documentSheets document).andThen fun sheets => (.ok ⟨.real waste, orStandard sheets⟩, [])

/-- These are the files at hand and the ways to choose one of them. The local file is only
chosen when it is there. -/
structure Setup where
  files : List (String × String)
  requested : Option String
  configured : String
  localFile : String
  override : String

namespace Setup

def content? (setup : Setup) (name : String) : Option String :=
  setup.files.lookup name

/-- A requested file comes before a configured one, and both before the local file. -/
def chosenFile? (setup : Setup) : Option String :=
  match setup.requested, Text.trim setup.configured with
  | some name, _ => some name
  | none, "" => if (setup.content? setup.localFile).isSome then some setup.localFile else none
  | none, name => some name

/-- Without a file the document is empty. -/
def document (setup : Setup) : Except LoadError Toml.Document :=
  match setup.chosenFile? with
  | none => .ok []
  | some name =>
    match setup.content? name with
    | none => .error .missingFile
    | some text =>
      match Toml.read text with
      | .ok document => .ok document
      | .error .malformed => .error .invalidDocument
      | .error .deepNesting => .error .deepNesting
      | .error (.longInteger digits) => .error (.longNumeral digits)

end Setup

/-- The stock is read from the chosen file. -/
def load (setup : Setup) : Noted LoadError Stock :=
  match setup.document with
  | .error error => (.error error, [])
  | .ok document => ofDocument document setup.override

theorem orStandard_ne_nil (sheets : List Sheet) : orStandard sheets ≠ [] := by
  unfold orStandard
  split
  · simp [standardSheets]
  · rename_i nonempty
    exact nonempty

theorem readSheets_cons (entry : Toml.Value) (rest : List Toml.Value) :
    readSheets (entry :: rest) =
      (readSheet entry).andThen fun sheet =>
        (readSheets rest).andThen fun sheets => (.ok (sheet.toList ++ sheets), []) := rfl

end Casework.Stock
