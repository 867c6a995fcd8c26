import Casework.Decimal.Shortest

namespace Casework

namespace Decimal

open Binary64

/-- The digits are padded to the left so that a digit stands before the point. -/
def positional (value : Decimal) : List Char :=
  match value.exponent with
  | .ofNat zeros => value.digits ++ List.replicate zeros '0'
  | .negSucc before =>
    let places := before + 1
    let padded := List.replicate (places + 1 - value.digits.length) '0' ++ value.digits
    let whole := padded.length - places
    padded.take whole ++ '.' :: padded.drop whole

/-- An exponent has a sign and at least two digits. -/
def exponentText (exponent : Int) : List Char :=
  let digits := Nat.toDigits 10 exponent.natAbs
  (if exponent < 0 then '-' else '+') :: (List.replicate (2 - digits.length) '0' ++ digits)

/-- One digit stands before the point, and a lone digit has no point. -/
def scientific (value : Decimal) : List Char :=
  let mantissa :=
    match value.digits with
    | first :: second :: rest => first :: '.' :: second :: rest
    | digits => digits
  mantissa ++ 'e' :: exponentText value.leadingExponent

/-- A layout writes a decimal positionally when its first digit has an exponent in the
given range, and may close a whole positional number with a point and a zero. -/
structure Layout where
  positionalFrom : Int
  positionalBelow : Int
  closesWhole : Bool

def Layout.write (layout : Layout) (value : Decimal) : List Char :=
  if layout.positionalFrom ≤ value.leadingExponent ∧
      value.leadingExponent < layout.positionalBelow then
    if layout.closesWhole ∧ 0 ≤ value.exponent then value.positional ++ ['.', '0']
    else value.positional
  else value.scientific

/-- The shortest form is positional from `0.0001` to below `10 ^ 16`. -/
def shortestLayout : Layout := ⟨-4, 16, true⟩

/-- The general form of six digits is positional from `0.0001` to below `10 ^ 6`. -/
def generalLayout : Layout := ⟨-4, 6, false⟩

/-- The decimal nearest to the magnitude among those of six digits. -/
def sixDigits (value : Finite) : Decimal :=
  if value.isZero then ⟨0, 0⟩ else (nearestMultiple value (firstDigitExponent value - 5)).trim

/-- The whole magnitude is written with all its digits and any other magnitude with the
fewest digits that read back, always without an exponent. -/
def plain (value : Finite) : List Char :=
  match value.whole? with
  | some whole => Nat.toDigits 10 whole
  | none => (shortest value).positional

/-- An integer that is written in base ten has at most this many digits. -/
def mostDigits : Nat := 4300

/-- This is the least natural number with too many digits. -/
@[irreducible]
def leastLong : Nat := Nat.pow 10 mostDigits

/-- A long integer is neither written nor read. -/
def isLong (value : Int) : Bool := leastLong ≤ value.natAbs

theorem leastLong_le_of_isLong {value : Int} (long : isLong value = true) :
    leastLong ≤ value.natAbs := of_decide_eq_true long

def limitMessage (detail : String) : String :=
  "Exceeds the limit (" ++ mostDigits.repr ++ " digits) for integer string conversion" ++ detail ++
    "; use sys.set_int_max_str_digits() to increase the limit"

/-- This message refuses to write an integer. -/
def longMessage : String := limitMessage ""

/-- This message refuses to read an integer with that many digits. -/
def longNumeralMessage (digits : Nat) : String :=
  limitMessage (": value has " ++ digits.repr ++ " digits")

/-- An integer is written with a minus or without a sign. -/
def integerText (value : Int) : String :=
  String.ofList <|
    if value < 0 then '-' :: Nat.toDigits 10 value.natAbs else Nat.toDigits 10 value.natAbs

end Decimal

namespace Binary64

/-- A sign stands before the text of the magnitude, and infinities and what is no number
have texts of their own. -/
def textBy (magnitude : Finite → List Char) : Binary64 → String
  | .finite value => signed value.negative (magnitude value)
  | .infinite negative => signed negative ['i', 'n', 'f']
  | .notNumber => "nan"
where
  signed (negative : Bool) (text : List Char) : String :=
    String.ofList (if negative then '-' :: text else text)

/-- This text has the fewest digits that read back. -/
def shortestText (value : Binary64) : String :=
  value.textBy fun magnitude => Decimal.shortestLayout.write (Decimal.shortest magnitude)

/-- This text has at most six significant digits. -/
def generalText (value : Binary64) : String :=
  value.textBy fun magnitude => Decimal.generalLayout.write (Decimal.sixDigits magnitude)

/-- This text has three digits after the point. -/
def fixedText (value : Binary64) : String :=
  value.textBy fun magnitude => (Decimal.nearestMultiple magnitude (-3)).positional

end Binary64

end Casework
