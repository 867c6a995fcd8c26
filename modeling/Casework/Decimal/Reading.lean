import Casework.Decimal.Basic
import Casework.Text.Blank
import Casework.Text.Digit

namespace Casework.Decimal

open Binary64

/-- This is the value of a list of decimal digits. -/
def digitsValue (digits : List Char) : Nat := Nat.ofDigitChars 10 digits 0

/-- A minus or a plus may stand in front. -/
def splitSign : List Char → Bool × List Char
  | '-' :: rest => (true, rest)
  | '+' :: rest => (false, rest)
  | rest => (false, rest)

/-- An exponent is a letter `e`, an optional sign and at least one digit. Nothing at all is
the exponent zero. -/
def readExponent? : List Char → Option Int
  | [] => some 0
  | letter :: rest =>
    let (negative, digits) := splitSign rest
    if (letter = 'e' ∨ letter = 'E') ∧ digits ≠ [] ∧ digits.all Char.isDigit then
      some (if negative then -(digitsValue digits : Int) else digitsValue digits)
    else none

/-- A point and digits may follow the whole part. -/
def splitFraction : List Char → List Char × List Char
  | '.' :: rest => (rest.takeWhile Char.isDigit, rest.dropWhile Char.isDigit)
  | rest => ([], rest)

/-- An unsigned numeral has a digit before or after its point, and an optional exponent. -/
def readUnsigned? (text : List Char) : Option Decimal :=
  let whole := text.takeWhile Char.isDigit
  let (fraction, rest) := splitFraction (text.dropWhile Char.isDigit)
  if whole = [] ∧ fraction = [] then none
  else (readExponent? rest).map fun exponent =>
    ⟨digitsValue (whole ++ fraction), exponent - fraction.length⟩

/-- A numeral is signed or not, and infinity and what is no number have names in letters of
either case. -/
def readNumeral? (text : List Char) : Option Binary64 :=
  let (negative, magnitude) := splitSign text
  let name := magnitude.map Char.toLower
  if name = ['i', 'n', 'f'] ∨ name = ['i', 'n', 'f', 'i', 'n', 'i', 't', 'y'] then
    some (.infinite negative)
  else if name = ['n', 'a', 'n'] then some .notNumber
  else (readUnsigned? magnitude).map (toBinary64 negative)

/-- Every underscore stands between two digits when this holds. -/
def groupsDigits : List Char → Bool
  | first :: '_' :: second :: rest =>
    first.isDigit && second.isDigit && groupsDigits (second :: rest)
  | '_' :: _ => false
  | [_, '_'] => false
  | _ :: rest => groupsDigits rest
  | [] => true

/-- A digit of another script stands for the digit of the same value. -/
def westernDigit (character : Char) : Char :=
  match Text.digitValue? character with
  | some value => Nat.digitChar value
  | none => character

/-- Blanks may surround a numeral, its digits may be of any script, and an underscore may
stand between two digits. The information separators do not count as blanks here. -/
def read? (text : String) : Option Binary64 :=
  let western := (Text.trimBy Text.isWhiteSpace text.toList).map westernDigit
  if groupsDigits western then readNumeral? (western.filter (· ≠ '_')) else none

/-- This is the value of a numeral of digits with an optional fraction and nothing else. -/
theorem readUnsigned_of_digits {digits : List Char} (nonempty : digits ≠ [])
    (areDigits : ∀ digit ∈ digits, digit.isDigit = true) :
    readUnsigned? digits = some ⟨digitsValue digits, 0⟩ := by
  have whole : digits.takeWhile Char.isDigit = digits := by
    simpa using @List.takeWhile_append_of_pos Char Char.isDigit digits [] areDigits
  have rest : digits.dropWhile Char.isDigit = [] := by
    simpa using @List.dropWhile_append_of_pos Char Char.isDigit digits [] areDigits
  simp [readUnsigned?, whole, rest, splitFraction, nonempty, readExponent?]

end Casework.Decimal
