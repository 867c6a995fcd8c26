import Casework.Proofs.Formula.Diagnosis
import Casework.Proofs.Formula.Relocation

namespace Casework

namespace Token

def AreLayout (characters : List Char) : Prop :=
  ∀ character ∈ characters, isLayout character = true

instance (characters : List Char) : Decidable (AreLayout characters) :=
  decidable_of_iff (characters.all isLayout = true) List.all_eq_true

/-- The words stand in the text one after the other. Layout may surround them, and between two
words there is some. -/
inductive Spaced : List String → List Char → Prop where
  | blank {layout : List Char} : AreLayout layout → Spaced [] layout
  | word {before after rest : List Char} {word : String} {words : List String} :
      AreLayout before → AreLayout after → (words ≠ [] → after ≠ []) → Spaced words rest →
        Spaced (word :: words) (before ++ (word.toList ++ (after ++ rest)))

/-- Layout is neither a point nor a part of a word. -/
theorem separated_of_areLayout {characters : List Char} (areLayout : AreLayout characters) :
    Separated characters := by
  intro character isHead
  have isLayout := areLayout character (List.mem_of_mem_head? isHead)
  simp only [Token.isLayout, Bool.or_eq_true, beq_iff_eq] at isLayout
  rcases isLayout with ((rfl | rfl) | rfl) | rfl <;> decide

/-- Layout alone has no tokens. -/
theorem scans_of_areLayout {characters : List Char} (position : Nat)
    (areLayout : AreLayout characters) : Scans position characters [] := by
  have scans := Scans.layout areLayout (scans_nil (position + characters.length))
  rwa [List.append_nil] at scans

/-- A text of a token is scanned as that token when nothing continues it. -/
theorem scans_lexeme {kind : Kind} {word : List Char} (position : Nat)
    (isLexeme : IsLexeme kind word) :
    Scans position word [⟨kind, String.ofList word, position⟩] := by
  cases known : kind.symbol? with
  | some symbol =>
      rw [(isLexeme_symbol_iff known word).mp isLexeme, ← String.singleton_eq_ofList]
      exact (scans_nil _).symbol known
  | none =>
      cases kind <;> try contradiction
      case number =>
        obtain ⟨value, numeral⟩ := isLexeme
        exact scans_numeral position numeral
      case identifier => exact scans_identifier position isLexeme
      case endOfInput =>
        obtain ⟨symbol, isSymbol, _⟩ := isLexeme
        contradiction

/-- What follows a word cannot be taken for a part of it. -/
theorem Spaced.separated {words : List String} {after rest : List Char}
    (areLayout : AreLayout after) (apart : words ≠ [] → after ≠ []) (spaced : Spaced words rest) :
    Separated (after ++ rest) := by
  cases after with
  | cons next others => exact separated_cons (separated_of_areLayout areLayout next rfl)
  | nil =>
      cases spaced with
      | blank isBlank => exact separated_of_areLayout isBlank
      | word => exact absurd rfl (apart (List.cons_ne_nil _ _))

/-- Words that are set apart are scanned as the tokens that they are the texts of. -/
theorem exists_scans_of_spaced {tokens : List Token} {text : List Char}
    (lexemes : ∀ token ∈ tokens, IsLexeme token.kind token.text.toList)
    (spaced : Spaced (tokens.map Token.text) text) (position : Nat) :
    ∃ moved, moved.map content = tokens.map content ∧ Scans position text moved := by
  generalize isWords : tokens.map Token.text = words at spaced
  induction spaced generalizing tokens position with
  | blank areLayout =>
      rw [List.map_eq_nil_iff.mp isWords]
      exact ⟨[], rfl, scans_of_areLayout position areLayout⟩
  | @word before after rest word words areBefore areAfter apart spaced inductionHypothesis =>
      obtain ⟨token, others, rfl, rfl, rfl⟩ := List.map_eq_cons_iff.mp isWords
      obtain ⟨isFirst, areOthers⟩ := List.forall_mem_cons.mp lexemes
      have scansWord := scans_lexeme (position + before.length) isFirst
      rw [String.ofList_toList] at scansWord
      obtain ⟨moved, sameContents, scansRest⟩ := inductionHypothesis areOthers
        (position + before.length + token.text.toList.length + after.length) rfl
      refine ⟨⟨token.kind, token.text, position + before.length⟩ :: moved, ?_, ?_⟩
      · rw [List.map_cons, List.map_cons, sameContents]
        rfl
      · exact Scans.layout areBefore
          (scansWord.before (Scans.layout areAfter scansRest)
            (spaced.separated areAfter apart))

/-- A text that sets the words of another text apart has its tokens at other positions. -/
theorem exists_place_of_spaced {source other : String} {tokens : List Token}
    (scanned : scan source = .ok tokens)
    (spaced : Spaced (tokens.dropLast.map Token.text) other.toList) :
    ∃ place, scan other = .ok (tokens.map (relocate place)) := by
  have distinct := nodup_positions_of_scan scanned
  obtain ⟨word, rfl, segments⟩ := segments_of_scan scanned
  rw [List.dropLast_concat] at spaced
  obtain ⟨moved, sameContents, scans⟩ := exists_scans_of_spaced segments.isLexeme spaced 0
  have sameAll : (moved ++ [(⟨.endOfInput, "", other.toList.length⟩ : Token)]).map content =
      (word ++ [(⟨.endOfInput, "", source.length⟩ : Token)]).map content := by
    rw [List.map_append, List.map_append, sameContents]
    rfl
  obtain ⟨place, areMoved⟩ := exists_relocation sameAll distinct
  exact ⟨place, by rw [← areMoved]; exact scans.scan⟩

/-- The position is that of the token with this index and of no other token. -/
def StandsAt (tokens : List Token) (index position : Nat) : Prop :=
  ∀ other, (tokens.map Token.position)[other]? = some position ↔ other = index

/-- Under distinct places a place belongs to one token. -/
theorem standsAt_of_nodup {tokens : List Token} (distinct : (tokens.map Token.position).Nodup)
    {index position : Nat} (stands : (tokens.map Token.position)[index]? = some position) :
    StandsAt tokens index position := by
  have inside := (List.getElem?_eq_some_iff.mp stands).1
  intro other
  rw [← stands, eq_comm, List.getElem?_inj inside distinct, eq_comm]

end Token

namespace Expression

/-- Tokens that have moved are read as the same tree, or their error has moved along. -/
theorem parse_of_scan_relocate {source other : String} {tokens : List Token} {place : Nat → Nat}
    (scanned : Token.scan source = .ok tokens)
    (moved : Token.scan other = .ok (tokens.map (Token.relocate place))) :
    parse other = relocated place id (parse source) := by
  obtain ⟨word, finish, rfl, _, _, _, isRead⟩ := exists_word_of_scan scanned
  obtain ⟨movedWord, movedFinish, split, _, _, _, isMovedRead⟩ := exists_word_of_scan moved
  rw [List.map_append, List.map_singleton] at split
  obtain ⟨rfl, sameFinish⟩ := List.append_inj' split rfl
  obtain ⟨rfl, _⟩ := List.cons.inj sameFinish
  rw [isRead, isMovedRead, readAll_relocate]

/-- An error of the grammar stands at one token. -/
theorem exists_index_of_parse {source : String} {tokens : List Token} {error : SyntaxError}
    (scanned : Token.scan source = .ok tokens) (refused : parse source = .error error) :
    ∃ index : Nat, (tokens.map Token.position)[index]? = some error.position := by
  obtain ⟨word, finish, rfl, ends, _, inside, isRead⟩ := exists_word_of_scan scanned
  rw [isRead] at refused
  obtain ⟨before, token, after, split, position, _⟩ :=
    located_readAll ends (fun token isMember => (inside token isMember).2) refused
  refine ⟨before.length, ?_⟩
  rw [split, position]
  simp

/-- A text with the words of another one, with layout between any two of them and around all, has
the same tokens but for their positions. It has the same tree, or an error with the same message at
the token with the same index. -/
theorem parse_spaced (source other : String) (tokens : List Token)
    (scanned : Token.scan source = .ok tokens)
    (spaced : Token.Spaced (tokens.dropLast.map Token.text) other.toList) :
    ∃ moved, Token.scan other = .ok moved ∧
      moved.map Token.kind = tokens.map Token.kind ∧
      moved.map Token.text = tokens.map Token.text ∧
      (∀ tree, parse source = .ok tree → parse other = .ok tree) ∧
      ∀ error, parse source = .error error →
        ∃ (again : SyntaxError) (index : Nat), parse other = .error again ∧
          again.message = error.message ∧ Token.StandsAt tokens index error.position ∧
          Token.StandsAt moved index again.position := by
  obtain ⟨place, moved⟩ := Token.exists_place_of_spaced scanned spaced
  have isParsed := parse_of_scan_relocate scanned moved
  refine ⟨tokens.map (Token.relocate place), moved, ?_, ?_, fun tree isTree => ?_,
    fun error refused => ?_⟩
  · rw [List.map_map]
    rfl
  · rw [List.map_map]
    rfl
  · rw [isParsed, isTree]
    rfl
  · obtain ⟨index, stands⟩ := exists_index_of_parse scanned refused
    rw [refused] at isParsed
    refine ⟨error.relocate place, index, isParsed, error.message_relocate place,
      Token.standsAt_of_nodup (Token.nodup_positions_of_scan scanned) stands,
      Token.standsAt_of_nodup (Token.nodup_positions_of_scan moved) ?_⟩
    have positions : (tokens.map (Token.relocate place)).map Token.position =
        (tokens.map Token.position).map place := by
      rw [List.map_map, List.map_map]
      rfl
    rw [positions, List.getElem?_map, stands]
    rfl

/-- A closing parenthesis may not stand for the second operand of a sum, however far apart the
tokens are. -/
theorem parse_spaced_open_sum :
    let source := "2*(a+)"
    let other := "\t2 * \n( a\r+ ) "
    let closing : Token := ⟨.rightParen, ")", 5⟩
    let tokens : List Token :=
      [⟨.number, "2", 0⟩, ⟨.star, "*", 1⟩, ⟨.leftParen, "(", 2⟩, ⟨.identifier, "a", 3⟩,
        ⟨.plus, "+", 4⟩, closing, ⟨.endOfInput, "", 6⟩]
    let error : SyntaxError := ⟨.expectedOperand closing, 5⟩
    Token.scan source = .ok tokens ∧
      Token.Spaced (tokens.dropLast.map Token.text) other.toList ∧
      parse source = .error error ∧
      ∃ moved, Token.scan other = .ok moved ∧
        moved.map Token.kind = tokens.map Token.kind ∧
        moved.map Token.text = tokens.map Token.text ∧
        ∃ (again : SyntaxError) (index : Nat), parse other = .error again ∧
          again.message = error.message ∧ Token.StandsAt tokens index error.position ∧
          Token.StandsAt moved index again.position := by
  intro source other closing tokens error
  have scanned : Token.scan source = .ok tokens := by decide +kernel
  have refused : parse source = .error error := by decide +kernel
  have words : tokens.dropLast.map Token.text = ["2", "*", "(", "a", "+", ")"] := rfl
  have text : other.toList =
      "\t".toList ++ ("2".toList ++ (" ".toList ++
      ([] ++ ("*".toList ++ (" \n".toList ++
      ([] ++ ("(".toList ++ (" ".toList ++
      ([] ++ ("a".toList ++ ("\r".toList ++
      ([] ++ ("+".toList ++ (" ".toList ++
      ([] ++ (")".toList ++ (" ".toList ++ []))))))))))))))))) := by decide +kernel
  have spaced : Token.Spaced (tokens.dropLast.map Token.text) other.toList := by
    rw [words, text]
    repeat refine .word (by decide) (by decide) (by decide) ?_
    exact .blank (by decide)
  obtain ⟨moved, isMoved, sameKinds, sameTexts, _, atSameToken⟩ :=
    parse_spaced source other tokens scanned spaced
  exact ⟨scanned, spaced, refused, moved, isMoved, sameKinds, sameTexts,
    atSameToken error refused⟩

end Expression

end Casework
