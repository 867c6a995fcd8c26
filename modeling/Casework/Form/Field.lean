import Casework.Decimal.Reading
import Casework.Form.Basic

namespace Casework.Form

open Binary64

def textField : Form → Checked String
  | .text value => .ok value
  | _ => fault .notText

/-- The underscores are removed when single ones stand inside a text, and nothing is removed
otherwise. -/
def withoutUnderscores (text : List Char) : List Char :=
  if text.head? = some '_' ∨ text.getLast? = some '_' ∨ doubles text then text
  else text.filter (· ≠ '_')
where
  doubles : List Char → Bool
    | '_' :: '_' :: _ => true
    | _ :: rest => doubles rest
    | [] => false

/-- White space may surround a numeral. Single underscores inside a numeral are ignored when no
white space surrounds it. -/
def readNumber? (text : String) : Option Binary64 :=
  (Decimal.readNumeral? (Text.trimBy Text.isWhiteSpace text.toList)).or
    (Decimal.readNumeral? (withoutUnderscores text.toList))

/-- An integer beyond the finite numbers is no number. -/
def numberField : Form → Checked Binary64
  | .integer value =>
    match ofInt value with
    | .finite number => .ok (.finite number)
    | _ => fault .notNumber
  | .flag value => .ok (ofInt (if value then 1 else 0))
  | .real value => .ok value
  | .text value =>
    match readNumber? value with
    | some number => .ok number
    | none => fault .unreadableNumber
  | _ => fault .notNumber

def finiteField (form : Form) : Checked Finite := do
  match ← numberField form with
  | .finite value => .ok value
  | _ => fault .notFinite

/-- A field that may be absent is checked only when it is there. -/
def absentOr {Accepted : Type} (check : Form → Checked Accepted) : Form → Checked (Option Accepted)
  | .absent => .ok none
  | form => (check form).map some

/-- A written integer has at most this many characters. -/
def longestInteger : Nat := 4300

/-- A plain integer is written with an optional minus and digits, and no zero stands in front of
other digits. Its length is looked at before what follows it. -/
def readPlainInteger (text : List Char) : Except Cause Int :=
  let digits := if text.head? = some '-' then text.drop 1 else text
  let magnitude := digits.takeWhile Char.isDigit
  let rest := digits.dropWhile Char.isDigit
  if magnitude = [] ∨ (magnitude.head? = some '0' ∧ magnitude ≠ ['0']) then
    .error .unreadableInteger
  else if longestInteger < text.length - rest.length then .error .longInteger
  else if rest ≠ [] then .error .unreadableInteger
  else
    let value := Decimal.digitsValue magnitude
    .ok (if text.head? = some '-' then -(value : Int) else value)

/-- Zeros in front are dropped together with the underscores among them. The last of them stays
when a point or nothing at all follows. A second minus may follow the zeros. -/
def withoutLeadingZeros : List Char → Option (List Char)
  | '0' :: rest => afterZero '0' rest
  | first :: rest => if first.isDigit then some (first :: rest) else none
  | [] => none
where
  afterZero (last : Char) : List Char → Option (List Char)
    | [] => some [last]
    | first :: rest =>
      if first = '0' ∨ first = '_' then afterZero first rest
      else if first = '.' then some (last :: first :: rest)
      else if first.isDigit ∨ first = '-' then some (first :: rest)
      else none

/-- A point with nothing but zeros after it is dropped together with them. -/
def withoutZeroFraction (text : List Char) : List Char :=
  match text.dropWhile (· ≠ '.') with
  | '.' :: first :: rest =>
    if (first :: rest).all (· == '0') then text.takeWhile (· ≠ '.') else text
  | _ => text

/-- An integer that is not plain may have white space around it, a sign, zeros in front, zeros
after a point and underscores. -/
def plainInteger? (text : List Char) : Option (List Char) :=
  let (negative, magnitude) := Decimal.splitSign (Text.trimBy Text.isWhiteSpace text)
  (withoutLeadingZeros magnitude).map fun magnitude =>
    let digits := withoutUnderscores (withoutZeroFraction magnitude)
    if negative then '-' :: digits else digits

/-- Only an integer that is plain as it stands is refused for its length. An integer that becomes
plain and is too long is an unreadable one. -/
def readInteger (text : String) : Except Cause Int :=
  match readPlainInteger text.toList, plainInteger? text.toList with
  | .error .unreadableInteger, some plain =>
    (readPlainInteger plain).mapError fun _ => .unreadableInteger
  | result, _ => result

/-- A real number is an integer when it has no fraction and sixty-four bits hold it. -/
def wholeNumber : Binary64 → Checked Int
  | .finite value =>
    match value.whole? with
    | none => fault .fractional
    | some whole =>
      if whole < 0x8000000000000000 then .ok (if value.negative then -(whole : Int) else whole)
      else fault .longInteger
  | _ => fault .notFinite

def integerField : Form → Checked Int
  | .integer value => .ok value
  | .flag value => .ok (if value then 1 else 0)
  | .real value => wholeNumber value
  | .text value =>
    match readInteger value with
    | .ok found => .ok found
    | .error cause => fault cause
  | _ => fault .notInteger

/-- A count is an integer that is not below zero. -/
def countField (form : Form) : Checked Nat := do
  match ← integerField form with
  | .ofNat value => .ok value
  | .negSucc _ => fault .tooSmall

def clearedWords : List String := ["0", "off", "f", "false", "n", "no"]

def setWords : List String := ["1", "on", "t", "true", "y", "yes"]

/-- A flag may be the number zero or one. Other numbers are unreadable flags when they are
integers that sixty-four bits hold, and no flags otherwise. -/
def flagOfNumber (value : Int) : Checked Bool :=
  if value = 0 then .ok false
  else if value = 1 then .ok true
  else if -0x8000000000000000 ≤ value ∧ value < 0x8000000000000000 then fault .unreadableFlag
  else fault .notFlag

/-- A flag may be written as a number or a word, in letters of either case. -/
def flagField : Form → Checked Bool
  | .flag value => .ok value
  | .integer value => flagOfNumber value
  | .real value =>
    match wholeNumber value with
    | .ok whole => flagOfNumber whole
    | .error _ => fault .notFlag
  | .text value =>
    let word := value.toLower
    if clearedWords.contains word then .ok false
    else if setWords.contains word then .ok true
    else fault .unreadableFlag
  | _ => fault .notFlag

def strictFlagField : Form → Checked Bool
  | .flag value => .ok value
  | _ => fault .notFlag

/-- A choice is one of the given names. -/
def choiceField {Accepted : Type} (choice? : String → Option Accepted) : Form → Checked Accepted
  | .text value =>
    match choice? value with
    | some accepted => .ok accepted
    | none => fault .notChoice
  | _ => fault .notChoice

/-- Every item of a list is checked, and its faults are found below its place. -/
def listField {Accepted : Type} (check : Form → Checked Accepted) : Form → Checked (List Accepted)
  | .list items =>
    Checked.all (items.zipIdx.map fun item => Checked.under item.2.repr (check item.1))
  | _ => fault .notList

/-- Every field of a table is checked, and its faults are found below its name. -/
def tableField {Accepted : Type} (check : Form → Checked Accepted) :
    Form → Checked (List (String × Accepted))
  | .record fields =>
    Checked.all (fields.map fun field =>
      Checked.under field.1 ((check field.2).map fun value => (field.1, value)))
  | _ => fault .notTable

/-- A record is checked by its fields. -/
def recordField {Accepted : Type} (check : List (String × Form) → Checked Accepted) :
    Form → Checked Accepted
  | .record fields => check fields
  | _ => fault .notRecord

/-- The field `kind` chooses how a record is checked, and the faults of the record are found
below that kind. -/
def taggedField {Accepted : Type}
    (check? : String → Option (List (String × Form) → Checked Accepted)) : Form → Checked Accepted
  | .record fields =>
    match field? fields "kind" with
    | none => fault .noTag
    | some (.text kind) =>
      match check? kind with
      | some check => Checked.under kind (check fields)
      | none => fault .unknownTag
    | some _ => fault .unknownTag
  | _ => fault .notTagged

end Casework.Form
