import Casework.Text.Printable

namespace Casework.Text

/-- Double quotes enclose a text with single quotes and no double ones. Single quotes enclose
any other text. -/
def quoteFor (text : List Char) : Char :=
  if text.contains '\'' ∧ ¬ text.contains '"' then '"' else '\''

/-- These are the last `width` hexadecimal digits of a number. -/
def hexadecimal (width number : Nat) : List Char :=
  (List.range width).reverse.map fun place => Nat.digitChar (number / Nat.pow 16 place % 16)

/-- The code of a character that cannot be seen has two, four or eight digits. -/
def escapedCode (code : Nat) : List Char :=
  if code < 0x100 then '\\' :: 'x' :: hexadecimal 2 code
  else if code < 0x10000 then '\\' :: 'u' :: hexadecimal 4 code
  else '\\' :: 'U' :: hexadecimal 8 code

/-- The backslash and the enclosing quote are escaped, and so is what cannot be seen. -/
def quotedCharacter (quote character : Char) : List Char :=
  if character = quote ∨ character = '\\' then ['\\', character]
  else if character = '\n' then ['\\', 'n']
  else if character = '\r' then ['\\', 'r']
  else if character = '\t' then ['\\', 't']
  else if isPrintable character then [character]
  else escapedCode character.toNat

def quoted (text : String) : String :=
  let characters := text.toList
  let quote := quoteFor characters
  String.ofList (quote :: characters.flatMap (quotedCharacter quote) ++ [quote])

end Casework.Text
