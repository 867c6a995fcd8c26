import Casework.Text.Quoted

namespace Casework

namespace Token

/-- Numbers and identifiers have a text of their own, and every other kind is one symbol or
the end of the input. -/
inductive Kind where
  | number
  | identifier
  | plus
  | minus
  | star
  | slash
  | leftParen
  | rightParen
  | question
  | colon
  | endOfInput
  deriving DecidableEq

namespace Kind

def all : List Kind :=
  [.number, .identifier, .plus, .minus, .star, .slash, .leftParen, .rightParen, .question,
    .colon, .endOfInput]

def name : Kind → String
  | .number => "number"
  | .identifier => "ident"
  | .plus => "plus"
  | .minus => "minus"
  | .star => "star"
  | .slash => "slash"
  | .leftParen => "lparen"
  | .rightParen => "rparen"
  | .question => "question"
  | .colon => "colon"
  | .endOfInput => "eof"

def ofName? (name : String) : Option Kind := all.find? fun kind => kind.name == name

/-- This message refuses a name that no kind has. -/
def unknownMessage (name : String) : String :=
  Text.quoted name ++ " is not a valid TokenKind"

/-- This is the character of a symbol. -/
def symbol? : Kind → Option Char
  | .plus => some '+'
  | .minus => some '-'
  | .star => some '*'
  | .slash => some '/'
  | .leftParen => some '('
  | .rightParen => some ')'
  | .question => some '?'
  | .colon => some ':'
  | _ => none

/-- This is the kind of a character that is a token by itself. -/
def ofSymbol? : Char → Option Kind
  | '+' => some .plus
  | '-' => some .minus
  | '*' => some .star
  | '/' => some .slash
  | '(' => some .leftParen
  | ')' => some .rightParen
  | '?' => some .question
  | ':' => some .colon
  | _ => none

/-- A reader of error messages sees a symbol between quotes and any other kind in words. -/
def description : Kind → String
  | .number => "number"
  | .identifier => "identifier"
  | .endOfInput => "end of input"
  | .plus => "'+'"
  | .minus => "'-'"
  | .star => "'*'"
  | .slash => "'/'"
  | .leftParen => "'('"
  | .rightParen => "')'"
  | .question => "'?'"
  | .colon => "':'"

@[simp]
theorem ofName_name (kind : Kind) : ofName? kind.name = some kind := by
  cases kind <;> decide +kernel

theorem ofSymbol_eq_some_iff {character : Char} {kind : Kind} :
    ofSymbol? character = some kind ↔ kind.symbol? = some character := by
  constructor
  · intro found
    unfold ofSymbol? at found
    split at found <;> simp_all [symbol?] <;> subst found <;> rfl
  · intro found
    cases kind <;> simp [symbol?] at found <;> subst found <;> rfl

end Kind

end Token

/-- A token has a kind, its text and the offset of its first character. -/
structure Token where
  kind : Token.Kind
  text : String
  position : Nat
  deriving DecidableEq

namespace Token

/-- Numbers and identifiers are described together with their text. -/
def found (token : Token) : String :=
  match token.kind with
  | .number | .identifier => token.kind.description ++ " " ++ Text.quoted token.text
  | kind => kind.description

/-- This line shows the three parts of a token. -/
def line (token : Token) : String :=
  "Token(" ++ token.kind.name ++ ", " ++ Text.quoted token.text ++ ", pos=" ++
    token.position.repr ++ ")"

end Token

end Casework
