import Casework.Proofs.Formula.Scanning

namespace Casework.Token

/-- These are the texts of the tokens of a kind. The end of the input has none. -/
def IsLexeme (kind : Kind) (word : List Char) : Prop :=
  match kind with
  | .number => ∃ value, Decimal.Numeral word value
  | .identifier => IsIdentifier word
  | symbol => ∃ character, symbol.symbol? = some character ∧ word = [character]

/-- The word is the longest text of a token of its kind at the front of the text. -/
structure Leads (kind : Kind) (word text : List Char) : Prop where
  isFront : word <+: text
  isLexeme : IsLexeme kind word
  isLongest : ∀ other, other <+: text → IsLexeme kind other → other.length ≤ word.length

/-- Tokens are cut from a text up to an offset. Each one is the longest of its kind where it
begins, and only layout stands between them. -/
inductive Segments (text : List Char) : List Token → Nat → Prop where
  | start : Segments text [] 0
  | layout {tokens : List Token} {offset : Nat} {character : Char} {rest : List Char} :
      Segments text tokens offset → text.drop offset = character :: rest →
        isLayout character = true → Segments text tokens (offset + 1)
  | token {tokens : List Token} {offset : Nat} {kind : Kind} {word : List Char} :
      Segments text tokens offset → Leads kind word (text.drop offset) →
        Segments text (tokens ++ [⟨kind, String.ofList word, offset⟩]) (offset + word.length)

/-- The text is cut up to the offset, and the character there neither is layout nor begins a
token. -/
def Unrecognised (text : List Char) (offset : Nat) : Prop :=
  ∃ tokens character rest, Segments text tokens offset ∧ text.drop offset = character :: rest ∧
    isLayout character = false ∧ ∀ kind word, word <+: character :: rest → ¬ IsLexeme kind word

/-- A symbol has one text. -/
theorem isLexeme_symbol_iff {kind : Kind} {symbol : Char} (isSymbol : kind.symbol? = some symbol)
    (word : List Char) : IsLexeme kind word ↔ word = [symbol] := by
  cases kind <;> cases isSymbol <;> simp [IsLexeme, Kind.symbol?]

/-- The first character of a token is not layout and decides the kind of the token. -/
theorem IsLexeme.exists_head {kind : Kind} {word : List Char} (isLexeme : IsLexeme kind word) :
    ∃ first rest, word = first :: rest ∧ isLayout first = false ∧
      ∀ others, (lexeme? first others).map Prod.fst = some kind := by
  cases known : kind.symbol? with
  | some symbol =>
      rw [isLexeme_symbol_iff known] at isLexeme
      refine ⟨symbol, [], isLexeme, (lexeme_symbol [] known).1, fun others => ?_⟩
      rw [(lexeme_symbol others known).2]
      rfl
  | none =>
      cases kind <;> try contradiction
      case number =>
        obtain ⟨value, numeral⟩ := isLexeme
        obtain ⟨first, rest, equal, isDigit⟩ := numeral.exists_head
        have notLayout := isLayout_of_continues (continuesIdentifier_of_isDigit isDigit)
        exact ⟨first, rest, equal, notLayout, fun others => by simp [lexeme?, isDigit]⟩
      case identifier =>
        obtain ⟨first, rest, equal, starts, _⟩ := isLexeme
        have noDigit := isDigit_of_startsIdentifier starts
        have notLayout := isLayout_of_continues (continues_of_starts starts)
        exact ⟨first, rest, equal, notLayout, fun others => by simp [lexeme?, noDigit, starts]⟩
      case endOfInput =>
        obtain ⟨symbol, isSymbol, _⟩ := isLexeme
        contradiction

/-- No front of the text on which the test holds is longer than the one that is taken. -/
theorem length_le_takeWhile {test : Char → Bool} {front text : List Char}
    (holds : ∀ character ∈ front, test character = true) (isFront : front <+: text) :
    front.length ≤ (text.takeWhile test).length := by
  obtain ⟨rest, rfl⟩ := isFront
  rw [List.takeWhile_append_of_pos holds, List.length_append]
  exact Nat.le_add_right _ _

/-- A number takes at least its leading digits. -/
theorem length_takeWhile_le_numberTail (characters : List Char) :
    (characters.takeWhile Char.isDigit).length ≤ (numberTail characters).length := by
  unfold numberTail
  dsimp only
  split
  · split
    · exact Nat.le_refl _
    · rw [List.length_append]
      exact Nat.le_add_right _ _
  · exact Nat.le_refl _

/-- A number with a point takes at least all of its fraction. -/
theorem length_le_numberTail_fractional {digits fraction rest : List Char}
    (areDigits : ∀ character ∈ digits, character.isDigit = true)
    (areFraction : Decimal.IsDigits fraction) (isFront : digits ++ '.' :: fraction <+: rest) :
    (digits ++ '.' :: fraction).length ≤ (numberTail rest).length := by
  obtain ⟨more, rfl⟩ := isFront
  have point : ∀ character ∈ ('.' :: (fraction ++ more)).head?, character.isDigit = false := by
    intro character isHead
    cases isHead
    decide
  obtain ⟨taken, dropped⟩ := takeWhile_append areDigits point
  have goesOn := length_le_takeWhile areFraction.2 (List.prefix_append fraction more)
  unfold numberTail
  rw [List.append_assoc, List.cons_append]
  dsimp only
  rw [taken, dropped]
  split
  · rename_i others isPoint
    cases isPoint
    split
    · rename_i nothing
      rw [nothing] at goesOn
      exact absurd (List.length_eq_zero_iff.mp (Nat.le_zero.mp goesOn)) areFraction.1
    · simp only [List.length_cons, List.length_append]
      omega
  · rename_i noPoint
    exact absurd rfl (noPoint _)

/-- A number goes on for at least as long as a numeral does. -/
theorem length_le_numberTail {first : Char} {rest word : List Char} {value : Decimal}
    (numeral : Decimal.Numeral word value) (isFront : word <+: first :: rest) :
    word.length ≤ (numberTail rest).length + 1 := by
  cases numeral with
  | whole areDigits =>
      cases word with
      | nil => exact Nat.zero_le _
      | cons digit digits =>
          have isTail := (List.cons_prefix_cons.mp isFront).2
          have digitsOnly : ∀ character ∈ digits, character.isDigit = true :=
            fun character isMember => areDigits.2 character (List.mem_cons_of_mem _ isMember)
          exact Nat.succ_le_succ (Nat.le_trans (length_le_takeWhile digitsOnly isTail)
            (length_takeWhile_le_numberTail rest))
  | @fractional digits fraction areDigits areFraction =>
      cases digits with
      | nil => exact absurd rfl areDigits.1
      | cons digit digits =>
          have isTail := (List.cons_prefix_cons.mp isFront).2
          have digitsOnly : ∀ character ∈ digits, character.isDigit = true :=
            fun character isMember => areDigits.2 character (List.mem_cons_of_mem _ isMember)
          exact Nat.succ_le_succ (length_le_numberTail_fractional digitsOnly areFraction isTail)

/-- The scanner takes the longest text of a token. -/
theorem leads_of_lexeme {first : Char} {rest tail : List Char} {kind : Kind}
    (found : lexeme? first rest = some (kind, tail)) :
    Leads kind (first :: tail) (first :: rest) := by
  have isFront : first :: tail <+: first :: rest :=
    List.cons_prefix_cons.mpr ⟨rfl, lexeme_prefix found⟩
  unfold lexeme? at found
  split at found
  · rename_i isDigit
    cases found
    refine ⟨isFront, numeral_of_numberTail rest isDigit, fun other isOther isLexeme => ?_⟩
    obtain ⟨value, numeral⟩ := isLexeme
    exact length_le_numberTail numeral isOther
  · split at found
    · rename_i starts
      cases found
      refine ⟨isFront, ⟨first, _, rfl, starts, List.all_eq_true.mp List.all_takeWhile⟩,
        fun other isOther isLexeme => ?_⟩
      obtain ⟨begins, goesOn, rfl, _, continues⟩ := isLexeme
      exact Nat.succ_le_succ
        (length_le_takeWhile continues (List.cons_prefix_cons.mp isOther).2)
    · obtain ⟨symbolKind, isSymbol, equal⟩ := Option.map_eq_some_iff.mp found
      cases equal
      have symbol := isLexeme_symbol_iff (Kind.ofSymbol_eq_some_iff.mp isSymbol)
      refine ⟨isFront, (symbol [first]).mpr rfl, fun other _ isLexeme => ?_⟩
      have sameLength := congrArg List.length ((symbol other).mp isLexeme)
      exact Nat.le_of_eq sameLength

/-- The scanner finds a token wherever one begins. -/
theorem not_isLexeme_of_lexeme {first : Char} {rest word : List Char} {kind : Kind}
    (missing : lexeme? first rest = none) (isFront : word <+: first :: rest) :
    ¬ IsLexeme kind word := by
  intro isLexeme
  obtain ⟨begins, tail, rfl, _, decides⟩ := isLexeme.exists_head
  have found := decides rest
  rw [(List.cons_prefix_cons.mp isFront).1, missing] at found
  contradiction

/-- Where the longest text of a token leads, the scanner takes that token. -/
theorem lexeme_of_leads {kind : Kind} {word rest : List Char} {first : Char}
    (leads : Leads kind word (first :: rest)) :
    isLayout first = false ∧ ∃ tail, word = first :: tail ∧
      lexeme? first rest = some (kind, tail) := by
  obtain ⟨begins, tail, rfl, notLayout, decides⟩ := leads.isLexeme.exists_head
  obtain ⟨rfl, isTail⟩ := List.cons_prefix_cons.mp leads.isFront
  obtain ⟨⟨_, taken⟩, found, rfl⟩ := Option.map_eq_some_iff.mp (decides rest)
  have scanned := leads_of_lexeme found
  have notLonger := scanned.isLongest _ leads.isFront leads.isLexeme
  have notShorter := leads.isLongest _ scanned.isFront scanned.isLexeme
  have sameLength : taken.length = tail.length :=
    Nat.succ.inj (Nat.le_antisymm notShorter notLonger)
  have isTaken := lexeme_prefix found
  have same : taken = tail :=
    (List.prefix_of_prefix_length_le isTaken isTail (Nat.le_of_eq sameLength)).eq_of_length
      sameLength
  rw [← same]
  exact ⟨notLayout, taken, rfl, found⟩

/-- After the first tokens a scan adds the others and the end of the input, or it stops where the
text is not recognised. -/
def Completes (text : List Char) (before : List Token) :
    Except SyntaxError (List Token) → Prop
  | .ok tokens => ∃ others, tokens = others ++ [⟨.endOfInput, "", text.length⟩] ∧
      Segments text (before ++ others) text.length
  | .error error => (∃ character, error.cause = .unexpectedCharacter character) ∧
      Unrecognised text error.position

/-- The text behind a character is found from its place. -/
theorem drop_of_drop_eq_cons {text rest : List Char} {position : Nat} {first : Char}
    (stands : text.drop position = first :: rest) :
    position < text.length ∧ ∀ count, text.drop (position + 1 + count) = rest.drop count := by
  constructor
  · have length := congrArg List.length stands
    rw [List.length_drop, List.length_cons] at length
    omega
  · intro count
    rw [Nat.add_assoc, ← List.drop_drop, stands, Nat.add_comm 1 count, List.drop_succ_cons]

/-- A scan from any place completes the tokens that tile the text before it. -/
theorem completes_scanFrom {text : List Char} (position : Nat) (characters : List Char)
    (stands : text.drop position = characters) (within : position ≤ text.length)
    {before : List Token} (segments : Segments text before position) :
    Completes text before (scanFrom position characters) := by
  induction position, characters using scanFrom.induct generalizing before with
  | case1 position =>
      have atEnd : position = text.length :=
        Nat.le_antisymm within (List.drop_eq_nil_iff.mp stands)
      rw [scanFrom]
      refine ⟨[], by rw [atEnd]; rfl, ?_⟩
      rw [List.append_nil, ← atEnd]
      exact segments
  | case2 position first rest layout inductionHypothesis =>
      obtain ⟨inside, next⟩ := drop_of_drop_eq_cons stands
      rw [scanFrom_layout position rest layout]
      exact inductionHypothesis (next 0) inside (segments.layout stands layout)
  | case3 position first rest notLayout missing =>
      rw [scanFrom, if_neg notLayout, missing]
      exact ⟨⟨first, rfl⟩, before, first, rest, segments, stands, Bool.eq_false_iff.mpr notLayout,
        fun kind word isFront => not_isLexeme_of_lexeme missing isFront⟩
  | case4 position first rest notLayout kind tail found inductionHypothesis =>
      obtain ⟨inside, next⟩ := drop_of_drop_eq_cons stands
      have length : position + (first :: tail).length = position + 1 + tail.length := by
        rw [List.length_cons]
        omega
      have fits : position + 1 + tail.length ≤ text.length := by
        have isFront := lexeme_prefix found
        have shorter := isFront.length_le
        have whole := congrArg List.length stands
        rw [List.length_drop, List.length_cons] at whole
        omega
      have leads : Leads kind (first :: tail) (text.drop position) := by
        rw [stands]
        exact leads_of_lexeme found
      have after := segments.token leads
      rw [length] at after
      have completes := inductionHypothesis (next tail.length) fits after
      rw [scanFrom_lexeme position (Bool.eq_false_iff.mpr notLayout) found]
      cases scanned : scanFrom (position + 1 + tail.length) (rest.drop tail.length) with
      | error error =>
          rw [scanned] at completes
          exact completes
      | ok tokens =>
          rw [scanned] at completes
          obtain ⟨others, rfl, segmented⟩ := completes
          exact ⟨⟨kind, String.ofList (first :: tail), position⟩ :: others, rfl,
            by rwa [List.append_assoc] at segmented⟩

/-- A text that is scanned is cut to its end, and the end of the input comes last. -/
theorem segments_of_scan {source : String} {tokens : List Token}
    (scanned : scan source = .ok tokens) :
    ∃ word, tokens = word ++ [⟨.endOfInput, "", source.length⟩] ∧
      Segments source.toList word source.length := by
  have completes := completes_scanFrom 0 source.toList rfl (Nat.zero_le _) .start
  rw [show scanFrom 0 source.toList = .ok tokens from scanned] at completes
  exact completes

/-- Every other text is refused at the first character that is not recognised. -/
theorem unrecognised_of_scan {source : String} {error : SyntaxError}
    (refused : scan source = .error error) :
    (∃ character, error.cause = .unexpectedCharacter character) ∧
      Unrecognised source.toList error.position := by
  have completes := completes_scanFrom 0 source.toList rfl (Nat.zero_le _) .start
  rw [show scanFrom 0 source.toList = .error error from refused] at completes
  exact completes

/-- A scan goes on where a text has been cut so far. -/
theorem scan_of_segments {source : String} {tokens : List Token} {offset : Nat}
    (segments : Segments source.toList tokens offset) :
    scan source = (scanFrom offset (source.toList.drop offset)).map (tokens ++ ·) := by
  induction segments with
  | start =>
      rw [scan, List.drop_zero]
      cases scanFrom 0 source.toList <;> rfl
  | @layout tokens offset character rest segments stands layout inductionHypothesis =>
      have next := (drop_of_drop_eq_cons stands).2 0
      rw [inductionHypothesis, stands, scanFrom_layout offset rest layout, next, List.drop_zero]
  | @token tokens offset kind word segments leads inductionHypothesis =>
      cases stands : source.toList.drop offset with
      | nil =>
          obtain ⟨first, tail, rfl, _⟩ := leads.isLexeme.exists_head
          rw [stands] at leads
          exact absurd (List.prefix_nil.mp leads.isFront) (List.cons_ne_nil _ _)
      | cons first rest =>
          rw [stands] at leads
          obtain ⟨notLayout, tail, rfl, found⟩ := lexeme_of_leads leads
          have next := (drop_of_drop_eq_cons stands).2 tail.length
          have length : offset + (first :: tail).length = offset + 1 + tail.length := by
            rw [List.length_cons]
            omega
          rw [inductionHypothesis, stands, scanFrom_lexeme offset notLayout found, length, next]
          cases scanFrom (offset + 1 + tail.length) (rest.drop tail.length) with
          | error error => rfl
          | ok others => simp [Except.map]

/-- A text is refused for a character that neither is layout nor begins a token. -/
theorem scan_of_startsNothing {source : String} {tokens : List Token} {offset : Nat}
    {character : Char} {rest : List Char} (segments : Segments source.toList tokens offset)
    (stands : source.toList.drop offset = character :: rest)
    (notLayout : isLayout character = false)
    (startsNothing : ∀ kind word, word <+: character :: rest → ¬ IsLexeme kind word) :
    scan source = .error ⟨.unexpectedCharacter character, offset⟩ := by
  have missing : lexeme? character rest = none := by
    cases found : lexeme? character rest with
    | none => rfl
    | some taken =>
        have leads := leads_of_lexeme found
        exact absurd leads.isLexeme (startsNothing _ _ leads.isFront)
  rw [scan_of_segments segments, stands, scanFrom, notLayout, if_neg (by decide), missing]
  rfl

/-- The tokens stand before the offset, the offset stands in the text, and no token ends the
input. -/
theorem Segments.bounds {text : List Char} {tokens : List Token} {offset : Nat}
    (segments : Segments text tokens offset) :
    offset ≤ text.length ∧
      ∀ token ∈ tokens, token.position < offset ∧ token.kind ≠ .endOfInput := by
  induction segments with
  | start => exact ⟨Nat.zero_le _, by simp⟩
  | layout segments stands layout inductionHypothesis =>
      refine ⟨(drop_of_drop_eq_cons stands).1, fun token isMember => ?_⟩
      obtain ⟨before, kind⟩ := inductionHypothesis.2 token isMember
      exact ⟨Nat.lt_succ_of_lt before, kind⟩
  | @token tokens offset kind word segments leads inductionHypothesis =>
      obtain ⟨first, rest, rfl, _⟩ := leads.isLexeme.exists_head
      have shorter := leads.isFront.length_le
      rw [List.length_drop] at shorter
      have notEnd : kind ≠ .endOfInput := by
        rintro rfl
        obtain ⟨symbol, isSymbol, _⟩ := leads.isLexeme
        contradiction
      have positive : 0 < (first :: rest).length := Nat.succ_pos _
      refine ⟨by omega, List.forall_mem_append.mpr ⟨fun token isMember => ?_, ?_⟩⟩
      · obtain ⟨before, isKind⟩ := inductionHypothesis.2 token isMember
        exact ⟨by omega, isKind⟩
      · exact List.forall_mem_singleton.mpr ⟨by dsimp only; omega, notEnd⟩

/-- Every token that is cut from a text has a text of its kind. -/
theorem Segments.isLexeme {text : List Char} {tokens : List Token} {offset : Nat}
    (segments : Segments text tokens offset) :
    ∀ token ∈ tokens, IsLexeme token.kind token.text.toList := by
  induction segments with
  | start => simp
  | layout segments stands layout inductionHypothesis => exact inductionHypothesis
  | @token tokens offset kind word segments leads inductionHypothesis =>
      refine List.forall_mem_append.mpr ⟨inductionHypothesis, List.forall_mem_singleton.mpr ?_⟩
      rw [String.toList_ofList]
      exact leads.isLexeme

/-- Later tokens stand farther to the right. -/
theorem Segments.increasing {text : List Char} {tokens : List Token} {offset : Nat}
    (segments : Segments text tokens offset) :
    (tokens.map Token.position).Pairwise (· < ·) := by
  induction segments with
  | start => exact List.Pairwise.nil
  | layout segments stands layout inductionHypothesis => exact inductionHypothesis
  | @token tokens offset kind word segments leads inductionHypothesis =>
      rw [List.map_append, List.map_singleton, List.pairwise_append]
      refine ⟨inductionHypothesis, List.pairwise_singleton _ _, fun position isPosition => ?_⟩
      obtain ⟨token, isToken, rfl⟩ := List.mem_map.mp isPosition
      exact List.forall_mem_singleton.mpr (segments.bounds.2 token isToken).1

/-- Two tokens of a text do not stand at one position. -/
theorem nodup_positions_of_scan {source : String} {tokens : List Token}
    (scanned : scan source = .ok tokens) : (tokens.map Token.position).Nodup := by
  obtain ⟨word, rfl, segments⟩ := segments_of_scan scanned
  have increasing : ((word ++ [(⟨.endOfInput, "", source.length⟩ : Token)]).map
      Token.position).Pairwise (· < ·) := by
    rw [List.map_append, List.map_singleton, List.pairwise_append]
    refine ⟨segments.increasing, List.pairwise_singleton _ _, fun position isPosition => ?_⟩
    obtain ⟨token, isToken, rfl⟩ := List.mem_map.mp isPosition
    exact List.forall_mem_singleton.mpr (segments.bounds.2 token isToken).1
  exact increasing.imp Nat.ne_of_lt

end Casework.Token
