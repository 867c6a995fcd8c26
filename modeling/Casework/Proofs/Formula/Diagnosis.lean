import Casework.Formula.Basic
import Casework.Formula.Complaint
import Casework.Proofs.Formula.Location
import Casework.Proofs.Formula.RoundTrip
import Casework.Proofs.Formula.Segmentation

namespace Casework.Expression

open Grammar

/-- The reading of all tokens locates its errors. -/
theorem located_readAll {finish : Token} {tokens : List Token} {error : SyntaxError}
    (ends : finish.kind = .endOfInput) (inside : ∀ token ∈ tokens, token.kind ≠ .endOfInput)
    (refused : readAll finish tokens = .error error) :
    ∃ before token after, tokens ++ [finish] = before ++ token :: after ∧
      error.position = token.position ∧ (AboutSize error ∨ Breaks before token) := by
  rw [readAll_eq_run] at refused
  rcases Except.bind_eq_error_iff.mp refused with refused | ⟨⟨tree, rest⟩, read, refused⟩
  · obtain ⟨before, token, after, split, position, reason⟩ :=
      locates_readNested ends depthLimit tokens error refused
    exact ⟨before, token, after, split, position, reason.imp_right Misplaced.breaks⟩
  · cases rest with
    | nil => contradiction
    | cons token rest =>
        cases refused
        obtain ⟨derivation, consumed, _⟩ := sound_readNested finish depthLimit tokens tree _ read
        have stops := halts_readNested finish depthLimit tokens tree _ read token rfl
        have notEnd := inside token (by rw [consumed]; simp)
        refine ⟨derivation.tokens, token, rest ++ [finish], ?_, rfl,
          .inr (breaks_of_stops derivation stops notEnd)⟩
        rw [consumed, List.append_assoc, List.cons_append]

/-- A text that is scanned is read token by token up to its end. -/
theorem exists_word_of_scan {source : String} {tokens : List Token}
    (scanned : Token.scan source = .ok tokens) :
    ∃ word finish, tokens = word ++ [finish] ∧ finish.kind = .endOfInput ∧
      finish.position = source.length ∧
      (∀ token ∈ word, token.position < source.length ∧ token.kind ≠ .endOfInput) ∧
      parse source = readAll finish word := by
  obtain ⟨word, rfl, segments⟩ := Token.segments_of_scan scanned
  have bounds := segments.bounds.2
  refine ⟨word, ⟨.endOfInput, "", source.length⟩, rfl, rfl, rfl, bounds, ?_⟩
  rw [parse, scanned]
  exact ofTokens_append rfl fun token isMember => (bounds token isMember).2

/-- The number tokens of a text are numerals, so each of them is read as some number. -/
theorem aboutFormula_of_parse {source : String} {error : SyntaxError}
    (refused : parse source = .error error) : AboutFormula error := by
  rcases Except.bind_eq_error_iff.mp refused with refused | ⟨tokens, scanned, refused⟩
  · obtain ⟨⟨character, isCause⟩, _⟩ := Token.unrecognised_of_scan refused
    intro text
    simp [isCause]
  · refine aboutFormula_readAll (fun token isMember isNumber => ?_) refused
    have lexical := Token.lexical_scanFrom 0 source.toList tokens scanned token
      (List.takeWhile_subset _ isMember)
    obtain ⟨value, numeral⟩ := lexical.1 isNumber
    exact ⟨_, Decimal.read_of_numeral numeral⟩

/-- An error of the grammar stands at the first token that breaks it. The tokens before it can be
completed to a formula and the tokens up to it cannot. At the end of the input the tokens before it
are no formula themselves. -/
theorem parse_breaks (source : String) (tokens : List Token) (error : SyntaxError)
    (scanned : Token.scan source = .ok tokens) (refused : parse source = .error error)
    (notNested : error.cause ≠ .nestedTooDeeply)
    (inRange : ∀ text, error.cause ≠ .numberOutOfRange text) :
    ∃ (index : Nat) (token : Token), tokens[index]? = some token ∧
      error.position = token.position ∧ Begins (tokens.take index) ∧
      ¬ Begins (tokens.take (index + 1)) ∧
      (token.kind = .endOfInput →
        ∀ derivation : Derivation .formula, derivation.tokens ≠ tokens.take index) := by
  have readable := aboutFormula_of_parse refused
  obtain ⟨word, finish, rfl, ends, _, inside, isRead⟩ := exists_word_of_scan scanned
  rw [isRead] at refused
  obtain ⟨before, token, after, split, position, reason⟩ :=
    located_readAll ends (fun token isMember => (inside token isMember).2) refused
  have breaks : Breaks before token := by
    rcases reason with (isNested | ⟨text, isCause⟩ | ⟨text, isCause⟩) | breaks
    · exact absurd isNested notNested
    · exact absurd isCause (inRange text)
    · exact absurd isCause (readable text)
    · exact breaks
  have front : (word ++ [finish]).take before.length = before := by
    rw [split, List.take_left]
  have next : (word ++ [finish]).take (before.length + 1) = before ++ [token] := by
    have regrouped : word ++ [finish] = (before ++ [token]) ++ after := by simp [split]
    have length : (before ++ [token]).length = before.length + 1 := by simp
    rw [regrouped, ← length, List.take_left]
  refine ⟨before.length, token, ?_, position, ?_, ?_, ?_⟩
  · rw [split]
    simp
  · rw [front]
    exact breaks.begins
  · rw [next]
    exact breaks.notBegins
  · rw [front]
    exact breaks.noFormula

/-- A colon may not stand for the second operand of a sum, whatever is open around the sum. -/
theorem parse_breaks_nested_sum :
    let source := "a ? (b + : c"
    let colon : Token := ⟨.colon, ":", 9⟩
    let before : List Token :=
      [⟨.identifier, "a", 0⟩, ⟨.question, "?", 2⟩, ⟨.leftParen, "(", 4⟩, ⟨.identifier, "b", 5⟩,
        ⟨.plus, "+", 7⟩]
    let tokens := before ++ [colon, ⟨.identifier, "c", 11⟩, ⟨.endOfInput, "", 12⟩]
    let error : SyntaxError := ⟨.expectedOperand colon, 9⟩
    Token.scan source = .ok tokens ∧ parse source = .error error ∧
      ∃ (index : Nat) (token : Token), tokens[index]? = some token ∧
        error.position = token.position ∧ Begins (tokens.take index) ∧
        ¬ Begins (tokens.take (index + 1)) ∧
        (token.kind = .endOfInput →
          ∀ derivation : Derivation .formula, derivation.tokens ≠ tokens.take index) := by
  intro source colon before tokens error
  have scanned : Token.scan source = .ok tokens := by decide +kernel
  have refused : parse source = .error error := by decide +kernel
  refine ⟨scanned, refused, ?_⟩
  exact parse_breaks source tokens error scanned refused (by decide) (fun text => by simp [error])

/-- Every text is a formula or has an error, which stands at the first character that is not
recognised, at a token or at the end. The tree of a formula is written without signs and stays
within the limit. The stream of the tokens of a text never lacks its end, and reading a formula
gives it or an error that can be reported. -/
theorem parse_located (source : String) :
    ((∃ tree, parse source = .ok tree ∧ tree.Written ∧ tree.depth ≤ 64) ∨
      ∃ error, parse source = .error error ∧ AboutFormula error ∧
        error.position ≤ source.length ∧
        (Token.Unrecognised source.toList error.position ∨
          (∃ tokens, Token.scan source = .ok tokens ∧
            ∃ token ∈ tokens, token.kind ≠ .endOfInput ∧ error.position = token.position) ∨
          error.position = source.length)) ∧
    (∀ tokens, Token.scan source = .ok tokens →
      ofStream tokens = (parse source).mapError .notFormula) ∧
    ∀ name, (∃ formula, Formula.read source name = .ok formula) ∨
      ∃ error, Formula.read source name = .error error ∧ AboutFormula error ∧
        error.complaint.report = .ok error.problem := by
  refine ⟨?_, fun tokens scanned => ?_, fun name => ?_⟩
  · cases parsed : parse source with
    | ok tree => exact .inl ⟨tree, rfl, written_of_parse parsed⟩
    | error error =>
        refine .inr ⟨error, rfl, aboutFormula_of_parse parsed, ?_⟩
        rcases Except.bind_eq_error_iff.mp parsed with refused | ⟨tokens, scanned, _⟩
        · have unrecognised := (Token.unrecognised_of_scan refused).2
          have within : error.position ≤ source.length := by
            obtain ⟨_, _, _, segments, _⟩ := unrecognised
            exact segments.bounds.1
          exact ⟨within, .inl unrecognised⟩
        · obtain ⟨word, finish, rfl, ends, atEnd, inside, isRead⟩ := exists_word_of_scan scanned
          rw [isRead] at parsed
          obtain ⟨before, token, after, split, position, _⟩ :=
            located_readAll ends (fun token isMember => (inside token isMember).2) parsed
          have isMember : token ∈ word ++ [finish] := by
            rw [split]
            simp
          rw [position]
          rcases List.mem_append.mp isMember with inWord | isFinish
          · obtain ⟨within, notEnd⟩ := inside token inWord
            exact ⟨Nat.le_of_lt within,
              .inr (.inl ⟨_, scanned, token, isMember, notEnd, rfl⟩)⟩
          · rw [List.mem_singleton.mp isFinish, atEnd]
            exact ⟨Nat.le_refl _, .inr (.inr rfl)⟩
  · obtain ⟨word, finish, rfl, ends, _⟩ := exists_word_of_scan scanned
    have ended : (word ++ [finish]).getLast?.any endsInput = true := by
      simp [endsInput, ends]
    rw [ofStream_of_ended ended, parse, scanned]
    rfl
  · cases parsed : parse source with
    | ok tree => exact .inl ⟨_, by rw [Formula.read, parsed]; rfl⟩
    | error error =>
        exact .inr ⟨error, by rw [Formula.read, parsed]; rfl, aboutFormula_of_parse parsed,
          error.report_complaint⟩

end Casework.Expression
