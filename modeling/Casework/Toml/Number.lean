import Casework.Decimal.Reading
import Casework.Toml.Text
import Casework.Toml.Value

namespace Casework.Toml

/-- These are the reasons for a text to be no document. -/
inductive ReadError where
  | malformed
  | deepNesting
  | longInteger (digits : Nat)
  deriving DecidableEq

/-- A reader of values stops at the first error. -/
abbrev ValueReader (Found : Type) := List Char → Except ReadError (Found × List Char)

/-- What is not found is malformed. -/
def found {Found : Type} : Option Found → Except ReadError Found
  | some found => .ok found
  | none => .error .malformed

/-- This is the longest front part of digits in which single underscores stand between
digits. -/
def groupedDigits (isDigit : Char → Bool) : List Char → List Char
  | [] => []
  | first :: rest =>
    if isDigit first then first :: more rest else []
where
  more : List Char → List Char
    | [] => []
    | '_' :: next :: rest => if isDigit next then '_' :: next :: more rest else []
    | first :: rest => if isDigit first then first :: more rest else []

/-- This is the value of digits of a base up to sixteen without their underscores. -/
def groupedValue (base : Nat) (digits : List Char) : Nat :=
  digits.foldl (fun number digit =>
    match hexValue? digit with
    | some value => base * number + value
    | none => number) 0

/-- These letters choose the base of an integer, and these are its digits. -/
def bases : List (Char × Nat × (Char → Bool)) :=
  [('x', 16, fun digit => (hexValue? digit).isSome),
    ('b', 2, fun digit => digit == '0' || digit == '1'),
    ('o', 8, fun digit => digit.isDigit && digit < '8')]

/-- An integer with a letter for its base has no sign. -/
def readBased : Reader Value
  | '0' :: letter :: rest => do
    let (base, isDigit) ← bases.lookup letter
    match groupedDigits isDigit rest with
    | [] => none
    | digits => some (.integer (groupedValue base digits), rest.drop digits.length)
  | _ => none

/-- A whole part has no zero in front of other digits. -/
def wholePart : List Char → List Char
  | '0' :: _ => ['0']
  | text => groupedDigits Char.isDigit text

def fractionPart : List Char → List Char
  | '.' :: rest =>
    match groupedDigits Char.isDigit rest with
    | [] => []
    | digits => '.' :: digits
  | _ => []

def signPart : List Char → List Char
  | '+' :: _ => ['+']
  | '-' :: _ => ['-']
  | _ => []

def exponentPart : List Char → List Char
  | letter :: rest =>
    if letter = 'e' ∨ letter = 'E' then
      let sign := signPart rest
      match groupedDigits Char.isDigit (rest.drop sign.length) with
      | [] => []
      | digits => letter :: (sign ++ digits)
    else []
  | [] => []

/-- A number with a fraction or an exponent is real, and any other is an integer. -/
def readDecimal : ValueReader Value := fun text =>
  let sign := signPart text
  let afterSign := text.drop sign.length
  match wholePart afterSign with
  | [] => .error .malformed
  | whole =>
    let afterWhole := afterSign.drop whole.length
    let fraction := fractionPart afterWhole
    let afterFraction := afterWhole.drop fraction.length
    let exponent := exponentPart afterFraction
    let rest := afterFraction.drop exponent.length
    if fraction = [] ∧ exponent = [] then
      let digits := (whole.filter (· ≠ '_')).length
      if Decimal.mostDigits < digits then .error (.longInteger digits)
      else
        let magnitude : Int := groupedValue 10 whole
        .ok (.integer (if sign = ['-'] then -magnitude else magnitude), rest)
    else do
      let number ← found (Decimal.read? (String.ofList (sign ++ whole ++ fraction ++ exponent)))
      .ok (.real number, rest)

/-- Infinity and what is no number have names. -/
def readNamedNumber : Reader Value := fun text =>
  let sign := signPart text
  let rest := text.drop sign.length
  let name := rest.take 3
  if name = ['i', 'n', 'f'] then some (.real (.infinite (sign == ['-'])), rest.drop 3)
  else if name = ['n', 'a', 'n'] then some (.real .notNumber, rest.drop 3)
  else none

/-- A date or a time is tried before a number, since both start with digits. A date that no
calendar has is an error. -/
def readMomentOrNumber : ValueReader Value := fun text =>
  match readDateAndTime text with
  | some ((date, none), rest) =>
    if date.isValid then .ok (.date date, rest) else .error .malformed
  | some ((date, some (time, offset)), rest) =>
    if date.isValid then .ok (.moment ⟨date, time, offset⟩, rest) else .error .malformed
  | none =>
    match readTime text with
    | some (time, rest) => .ok (.time time, rest)
    | none =>
      match (readBased text).or (readNamedNumber text) with
      | some found => .ok found
      | none => readDecimal text

end Casework.Toml
