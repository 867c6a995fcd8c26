/-
This file splits formula texts into tokens. Each token is the longest one at its offset, and
only spaces, tabs and line ends stand between tokens.
-/

import Casework.Formula.SyntaxError

namespace Casework.Token

/-- These characters may stand between tokens. -/
def isLayout (character : Char) : Bool :=
  character == ' ' || character == '\t' || character == '\n' || character == '\r'

def startsIdentifier (character : Char) : Bool := character.isAlpha || character == '_'

def continuesIdentifier (character : Char) : Bool := character.isAlphanum || character == '_'

/-- A number goes on with digits, and then with a point if digits follow the point. -/
def numberTail (characters : List Char) : List Char :=
  let whole := characters.takeWhile Char.isDigit
  match characters.dropWhile Char.isDigit with
  | '.' :: rest =>
    match rest.takeWhile Char.isDigit with
    | [] => whole
    | fraction => whole ++ '.' :: fraction
  | _ => whole

/-- This is the kind of the token that starts with the character, and the rest of its text. -/
def lexeme? (first : Char) (rest : List Char) : Option (Kind × List Char) :=
  if first.isDigit then some (.number, numberTail rest)
  else if startsIdentifier first then some (.identifier, rest.takeWhile continuesIdentifier)
  else (Kind.ofSymbol? first).map fun kind => (kind, [])

/-- The characters from the given offset on are split into tokens. -/
def scanFrom (position : Nat) : List Char → Except SyntaxError (List Token)
  | [] => .ok [⟨.endOfInput, "", position⟩]
  | first :: rest =>
    if isLayout first then scanFrom (position + 1) rest
    else
      match lexeme? first rest with
      | none => .error ⟨.unexpectedCharacter first, position⟩
      | some (kind, tail) => do
        let tokens ← scanFrom (position + 1 + tail.length) (rest.drop tail.length)
        .ok (⟨kind, String.ofList (first :: tail), position⟩ :: tokens)
termination_by characters => characters.length
decreasing_by
  · exact Nat.lt_succ_self _
  · rw [List.length_drop, List.length_cons]
    omega

/-- A formula text is split into tokens, and the last one marks its end. -/
def scan (source : String) : Except SyntaxError (List Token) := scanFrom 0 source.toList

/-- The rest of a number stands at the front of what follows its first digit. -/
theorem numberTail_prefix (characters : List Char) : numberTail characters <+: characters := by
  unfold numberTail
  have whole := @List.takeWhile_append_dropWhile Char Char.isDigit characters
  dsimp only
  split
  · rename_i rest after
    split
    · exact List.takeWhile_prefix _
    · rename_i digits
      rw [after] at whole
      refine ⟨rest.dropWhile Char.isDigit, ?_⟩
      rw [List.append_assoc, List.cons_append, List.takeWhile_append_dropWhile, whole]
  · exact List.takeWhile_prefix _

/-- The rest of a token stands at the front of what follows its first character. -/
theorem lexeme_prefix {first : Char} {rest tail : List Char} {kind : Kind}
    (found : lexeme? first rest = some (kind, tail)) : tail <+: rest := by
  unfold lexeme? at found
  split at found
  · cases found
    exact numberTail_prefix rest
  · split at found
    · cases found
      exact List.takeWhile_prefix _
    · obtain ⟨_, _, equal⟩ := Option.map_eq_some_iff.mp found
      cases equal
      exact List.nil_prefix

end Casework.Token
