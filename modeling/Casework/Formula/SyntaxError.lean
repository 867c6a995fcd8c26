import Casework.Formula.Token

namespace Casework

/-- These are the reasons to refuse a formula text. -/
inductive SyntaxError.Cause where
  | unexpectedCharacter (character : Char)
  | expectedOperand (found : Token)
  | expectedSymbol (kind : Token.Kind) (found : Token)
  | trailingToken (found : Token)
  | numberOutOfRange (text : String)
  | unreadableNumber (text : String)
  | nestedTooDeeply
  deriving DecidableEq

/-- An error has a cause and the offset that it is reported at. -/
structure SyntaxError where
  cause : SyntaxError.Cause
  position : Nat
  deriving DecidableEq

namespace SyntaxError

def message (error : SyntaxError) : String :=
  match error.cause with
  | .unexpectedCharacter character =>
    "Unexpected character: " ++ Text.quoted (String.singleton character)
  | .expectedOperand found => "Expected number, identifier or '(', got " ++ found.found
  | .expectedSymbol kind found => "Expected " ++ kind.description ++ ", got " ++ found.found
  | .trailingToken found => "Unexpected " ++ found.found ++ " after formula"
  | .numberOutOfRange text => "Number out of range: " ++ text
  | .unreadableNumber text => "could not convert string to float: " ++ Text.quoted text
  | .nestedTooDeeply => "Formula nested too deeply"

/-- The message stands below the source and a line with a caret. The caret is as far from the
left as the position, but not farther than the source is long. -/
def mark (source message : String) (position : Int) : String :=
  let indent := (min position source.length).toNat
  source ++ "\n" ++ String.ofList (List.replicate indent ' ' ++ ['^', '\n']) ++ message

def marked (error : SyntaxError) (source : String) : String :=
  mark source error.message error.position

end SyntaxError

end Casework
