import Casework.Toml.Moment

namespace Casework.Toml

/-- These characters may only be written with an escape. -/
def isControl (character : Char) : Bool := character.toNat < 32 || character.toNat = 127

/-- A tab is allowed everywhere and a line end in texts of several lines. -/
def isForbidden (severalLines : Bool) (character : Char) : Bool :=
  isControl character && character != '\t' && !(severalLines && character == '\n')

def isSpace (character : Char) : Bool := character == ' ' || character == '\t'

def isSpaceOrLine (character : Char) : Bool := isSpace character || character == '\n'

def skipSpaces (text : List Char) : List Char := text.dropWhile isSpace

/-- A comment goes to the end of its line. -/
def skipComment : List Char → Option (List Char)
  | '#' :: rest =>
    if (rest.takeWhile (· ≠ '\n')).any (isForbidden false) then none
    else some (rest.dropWhile (· ≠ '\n'))
  | text => some text

def hexValue? (character : Char) : Option Nat :=
  if character.isDigit then some (character.toNat - '0'.toNat)
  else if 'a' ≤ character ∧ character ≤ 'f' then some (character.toNat - 'a'.toNat + 10)
  else if 'A' ≤ character ∧ character ≤ 'F' then some (character.toNat - 'A'.toNat + 10)
  else none

def hexNumber? (digits : List Char) : Option Nat :=
  digits.foldlM (fun number digit => (hexValue? digit).map fun value => 16 * number + value) 0

/-- A code has exactly this many digits and is the code of a character. -/
def codeCharacter? (width : Nat) (text : List Char) : Option Char := do
  let digits := text.take width
  let code ← hexNumber? digits
  if valid : digits.length = width ∧ code.isValidChar then
    some (Char.ofNatAux code valid.2)
  else none

/-- These letters stand for single characters after a backslash. -/
def shortEscapes : List (Char × Char) :=
  [('b', Char.ofNat 8), ('t', '\t'), ('n', '\n'), ('f', Char.ofNat 12), ('r', '\r'), ('"', '"'),
    ('\\', '\\')]

/-- A backslash at the end of a line hides the line end and the spaces and lines after it. This
is the count of hidden characters. -/
def hiddenLength? (text : List Char) : Option Nat :=
  let spaces := text.takeWhile isSpace
  match text.dropWhile isSpace with
  | [] => some spaces.length
  | '\n' :: rest => some (spaces.length + 1 + (rest.takeWhile isSpaceOrLine).length)
  | _ => none

/-- This is what an escape stands for, and the count of characters after its backslash. -/
def escape? (severalLines : Bool) : List Char → Option (List Char × Nat)
  | [] => none
  | first :: rest =>
    if severalLines ∧ isSpaceOrLine first then
      (hiddenLength? (first :: rest)).map fun length => ([], length)
    else if first = 'u' then (codeCharacter? 4 rest).map fun character => ([character], 5)
    else if first = 'U' then (codeCharacter? 8 rest).map fun character => ([character], 9)
    else (shortEscapes.lookup first).map fun character => ([character], 1)

/-- A text between double quotes ends with one quote, or with three when it has several
lines. -/
def readEscaped (severalLines : Bool) : Reader (List Char)
  | [] => none
  | first :: rest =>
    if first = '"' then
      if severalLines then
        if rest.take 2 = ['"', '"'] then some ([], rest.drop 2)
        else do
          let (found, text) ← readEscaped severalLines rest
          some ('"' :: found, text)
      else some ([], rest)
    else if first = '\\' then do
      let (meant, length) ← escape? severalLines rest
      let (found, text) ← readEscaped severalLines (rest.drop length)
      some (meant ++ found, text)
    else if isForbidden severalLines first then none
    else do
      let (found, text) ← readEscaped severalLines rest
      some (first :: found, text)
termination_by text => text.length
decreasing_by
  · exact Nat.lt_succ_self _
  · rw [List.length_drop, List.length_cons]
    omega
  · exact Nat.lt_succ_self _

/-- A text between three single quotes has no escapes. -/
def readVerbatimLines : Reader (List Char)
  | [] => none
  | first :: rest =>
    if first = '\'' ∧ rest.take 2 = ['\'', '\''] then some ([], rest.drop 2)
    else if isForbidden true first then none
    else do
      let (found, text) ← readVerbatimLines rest
      some (first :: found, text)

/-- A text between single quotes has no escapes and one line. -/
def readVerbatim : Reader (List Char)
  | [] => none
  | first :: rest =>
    if first = '\'' then some ([], rest)
    else if isForbidden false first then none
    else do
      let (found, text) ← readVerbatim rest
      some (first :: found, text)

/-- Up to two quotes before the closing ones belong to the text. -/
def closeLines (quote : Char) (found : List Char × List Char) : List Char × List Char :=
  let extra := (found.2.take 2).takeWhile (· == quote)
  (found.1 ++ extra, found.2.drop extra.length)

/-- A line end right after the opening quotes is no part of the text. -/
def dropFirstLineEnd : List Char → List Char
  | '\n' :: rest => rest
  | text => text

/-- This reads a text between quotes of any kind. -/
def readText (text : List Char) : Option (String × List Char) :=
  let found? : Option (List Char × List Char) :=
    match text with
    | '"' :: '"' :: '"' :: rest =>
      (readEscaped true (dropFirstLineEnd rest)).map (closeLines '"')
    | '"' :: rest => readEscaped false rest
    | '\'' :: '\'' :: '\'' :: rest =>
      (readVerbatimLines (dropFirstLineEnd rest)).map (closeLines '\'')
    | '\'' :: rest => readVerbatim rest
    | _ => none
  found?.map fun found => (String.ofList found.1, found.2)

def isKeyCharacter (character : Char) : Bool :=
  character.isAlphanum || character == '-' || character == '_'

/-- A part of a key is bare or stands between single quotes or double quotes. -/
def readKeyPart : Reader String
  | '"' :: rest => (readEscaped false rest).map fun found => (String.ofList found.1, found.2)
  | '\'' :: rest => (readVerbatim rest).map fun found => (String.ofList found.1, found.2)
  | text =>
    match text.takeWhile isKeyCharacter with
    | [] => none
    | part => some (String.ofList part, text.drop part.length)

/-- Points stand between the parts of a key, of which there are at most as many as the fuel
allows. -/
def readKeyWithin : (fuel : Nat) → Reader (List String)
  | 0, _ => none
  | fuel + 1, text => do
    let (part, text) ← readKeyPart text
    match skipSpaces text with
    | '.' :: rest => do
      let (parts, text) ← readKeyWithin fuel (skipSpaces rest)
      some (part :: parts, text)
    | rest => some ([part], rest)

/-- Every part of a key takes a character, so the length of the text is fuel enough. -/
def readKey : Reader (List String) := fun text => readKeyWithin text.length text

end Casework.Toml
