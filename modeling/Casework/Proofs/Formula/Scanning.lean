import Casework.Formula.Scan
import Casework.Proofs.Decimal.Numeral
import Casework.ToMathlib.Except

namespace Casework.Token

/-- An identifier is a letter or an underscore, and then letters, digits and underscores. -/
def IsIdentifier (characters : List Char) : Prop :=
  ∃ first rest, characters = first :: rest ∧ startsIdentifier first = true ∧
    ∀ character ∈ rest, continuesIdentifier character = true

/-- The text of a number is a numeral, and the text of an identifier is one. -/
def Lexical (token : Token) : Prop :=
  (token.kind = .number → ∃ value, Decimal.Numeral token.text.toList value) ∧
    (token.kind = .identifier → IsIdentifier token.text.toList)

/-- These characters continue neither a number nor an identifier. -/
def isSeparator (character : Char) : Bool := !continuesIdentifier character && character != '.'

/-- The text is empty or begins with a separator. -/
def Separated (characters : List Char) : Prop :=
  ∀ character ∈ characters.head?, isSeparator character = true

theorem separated_nil : Separated [] := by
  intro character isHead
  contradiction

theorem separated_cons {first : Char} {rest : List Char} (separates : isSeparator first = true) :
    Separated (first :: rest) := by
  intro character isHead
  cases isHead
  exact separates

/-- A test that holds of the items of a list and not of the next one ends with the list. -/
theorem takeWhile_append {Item : Type} {test : Item → Bool} {first second : List Item}
    (holds : ∀ item ∈ first, test item = true) (ends : ∀ item ∈ second.head?, test item = false) :
    (first ++ second).takeWhile test = first ∧ (first ++ second).dropWhile test = second := by
  rw [List.takeWhile_append_of_pos holds, List.dropWhile_append_of_pos holds]
  cases second with
  | nil => simp
  | cons next others =>
      have stops := ends next rfl
      simp [stops]

/-- A digit may stand inside an identifier. -/
theorem continuesIdentifier_of_isDigit {character : Char} (isDigit : character.isDigit = true) :
    continuesIdentifier character = true := by
  simp [continuesIdentifier, Char.isAlphanum, isDigit]

/-- An identifier ends before separated characters. -/
theorem Separated.continuesIdentifier {characters : List Char} (separated : Separated characters) :
    ∀ character ∈ characters.head?, continuesIdentifier character = false := by
  intro character isHead
  have separates := separated character isHead
  simp only [isSeparator, Bool.and_eq_true, Bool.not_eq_true'] at separates
  exact separates.1

/-- The digits of a number end before separated characters. -/
theorem Separated.isDigit {characters : List Char} (separated : Separated characters) :
    ∀ character ∈ characters.head?, character.isDigit = false := by
  intro character isHead
  cases isDigit : character.isDigit with
  | false => rfl
  | true =>
      have stops := separated.continuesIdentifier character isHead
      rw [continuesIdentifier_of_isDigit isDigit] at stops
      contradiction

/-- No point follows where the text is separated. -/
theorem Separated.ne_point {characters : List Char} (separated : Separated characters) :
    ∀ rest, characters ≠ '.' :: rest := by
  intro rest equal
  have separates := separated '.' (by rw [equal]; rfl)
  revert separates
  decide

/-- The digits of a whole number are taken up to a separator. -/
theorem numberTail_whole {digits rest : List Char}
    (areDigits : ∀ character ∈ digits, character.isDigit = true) (separated : Separated rest) :
    numberTail (digits ++ rest) = digits := by
  obtain ⟨taken, dropped⟩ := takeWhile_append areDigits separated.isDigit
  unfold numberTail
  dsimp only
  rw [taken, dropped]
  split
  · exact absurd rfl (separated.ne_point _)
  · rfl

/-- The point is taken into the number with the digits on both sides. -/
theorem numberTail_fractional {digits fraction rest : List Char}
    (areDigits : ∀ character ∈ digits, character.isDigit = true)
    (areFraction : Decimal.IsDigits fraction) (separated : Separated rest) :
    numberTail (digits ++ '.' :: fraction ++ rest) = digits ++ '.' :: fraction := by
  have point : ∀ character ∈ ('.' :: (fraction ++ rest)).head?, character.isDigit = false := by
    intro character isHead
    cases isHead
    decide
  obtain ⟨taken, dropped⟩ := takeWhile_append areDigits point
  obtain ⟨takenFraction, _⟩ := takeWhile_append areFraction.2 separated.isDigit
  unfold numberTail
  rw [List.append_assoc, List.cons_append]
  dsimp only
  rw [taken, dropped]
  split
  · rename_i others equal
    cases equal
    rw [takenFraction]
    cases fraction with
    | nil => exact absurd rfl areFraction.1
    | cons first others => rfl
  · rename_i other
    exact absurd rfl (other _)

/-- The longest number at the front of a text is its numeral. -/
theorem lexeme_numeral {first : Char} {tail rest : List Char} {value : Decimal}
    (numeral : Decimal.Numeral (first :: tail) value) (separated : Separated rest) :
    first.isDigit = true ∧ lexeme? first (tail ++ rest) = some (.number, tail) := by
  have found : first.isDigit = true ∧ numberTail (tail ++ rest) = tail := by
    generalize whole : first :: tail = characters at numeral
    cases numeral with
    | whole areDigits =>
        subst whole
        exact ⟨areDigits.2 first (by simp), numberTail_whole
          (fun character isMember => areDigits.2 character (by simp [isMember])) separated⟩
    | @fractional digits fraction areDigits areFraction =>
        cases digits with
        | nil => exact absurd rfl areDigits.1
        | cons digit digits =>
            cases whole
            exact ⟨areDigits.2 first (by simp), numberTail_fractional
              (fun character isMember => areDigits.2 character (by simp [isMember])) areFraction
              separated⟩
  refine ⟨found.1, ?_⟩
  unfold lexeme?
  rw [if_pos found.1, found.2]

/-- A digit does not start an identifier. -/
theorem isDigit_of_startsIdentifier {character : Char}
    (starts : startsIdentifier character = true) : character.isDigit = false := by
  cases isDigit : character.isDigit with
  | false => rfl
  | true =>
      obtain ⟨value, below, equal⟩ := Text.exists_digitChar isDigit
      have never : ∀ value < 10, startsIdentifier (Nat.digitChar value) = false := by decide +kernel
      rw [equal, never value below] at starts
      contradiction

/-- An identifier is taken up to the first character that does not continue it. -/
theorem lexeme_identifier {first : Char} {tail rest : List Char}
    (starts : startsIdentifier first = true)
    (continues : ∀ character ∈ tail, continuesIdentifier character = true)
    (separated : Separated rest) :
    lexeme? first (tail ++ rest) = some (.identifier, tail) := by
  obtain ⟨taken, _⟩ := takeWhile_append continues separated.continuesIdentifier
  unfold lexeme?
  rw [isDigit_of_startsIdentifier starts, if_neg (by decide), if_pos starts, taken]

/-- A symbol is a token by itself. -/
theorem lexeme_symbol {symbol : Char} {kind : Kind} (rest : List Char)
    (isSymbol : kind.symbol? = some symbol) :
    isLayout symbol = false ∧ lexeme? symbol rest = some (kind, []) := by
  cases kind <;> cases isSymbol <;> exact ⟨by decide, rfl⟩

/-- No character of a word is layout. -/
theorem isLayout_of_continues {character : Char}
    (continues : continuesIdentifier character = true) : isLayout character = false := by
  cases layout : isLayout character with
  | false => rfl
  | true =>
      simp only [isLayout, Bool.or_eq_true, beq_iff_eq] at layout
      rcases layout with ((rfl | rfl) | rfl) | rfl <;> revert continues <;> decide

/-- What starts an identifier also continues one. -/
theorem continues_of_starts {character : Char} (starts : startsIdentifier character = true) :
    continuesIdentifier character = true := by
  simp only [startsIdentifier, Bool.or_eq_true] at starts
  simp only [continuesIdentifier, Char.isAlphanum, Bool.or_eq_true]
  rcases starts with isAlpha | isUnderscore
  · exact .inl (.inl isAlpha)
  · exact .inr isUnderscore

/-- Layout between the tokens is skipped. -/
theorem scanFrom_layout {first : Char} (position : Nat) (rest : List Char)
    (layout : isLayout first = true) :
    scanFrom position (first :: rest) = scanFrom (position + 1) rest := by
  rw [scanFrom, if_pos layout]

/-- A token stands where its first character does, and the scan goes on behind its text. -/
theorem scanFrom_lexeme {first : Char} {rest tail : List Char} {kind : Kind} (position : Nat)
    (notLayout : isLayout first = false) (found : lexeme? first rest = some (kind, tail)) :
    scanFrom position (first :: rest) =
      (scanFrom (position + 1 + tail.length) (rest.drop tail.length)).map
        (⟨kind, String.ofList (first :: tail), position⟩ :: ·) := by
  rw [scanFrom, notLayout, if_neg (by decide), found]
  dsimp only
  cases scanFrom (position + 1 + tail.length) (rest.drop tail.length) <;> rfl

/-- The characters from the position on are scanned as the tokens when a separator follows. -/
def Scans (position : Nat) (characters : List Char) (tokens : List Token) : Prop :=
  ∀ rest tail, Separated rest → scanFrom (position + characters.length) rest = .ok tail →
    scanFrom position (characters ++ rest) = .ok (tokens ++ tail)

/-- A word is one token. -/
theorem scans_word {first : Char} {tail : List Char} {kind : Kind} (position : Nat)
    (notLayout : isLayout first = false)
    (found : ∀ rest, Separated rest → lexeme? first (tail ++ rest) = some (kind, tail)) :
    Scans position (first :: tail) [⟨kind, String.ofList (first :: tail), position⟩] := by
  intro rest after separated scanned
  have length : position + (first :: tail).length = position + 1 + tail.length := by
    rw [List.length_cons]
    omega
  rw [length] at scanned
  rw [List.cons_append, scanFrom_lexeme position notLayout (found rest separated),
    List.drop_left, scanned]
  rfl

/-- A numeral alone is one number token. -/
theorem scans_numeral {characters : List Char} {value : Decimal} (position : Nat)
    (numeral : Decimal.Numeral characters value) :
    Scans position characters [⟨.number, String.ofList characters, position⟩] := by
  obtain ⟨first, tail, equal, isDigit⟩ := numeral.exists_head
  subst equal
  exact scans_word position (isLayout_of_continues (continuesIdentifier_of_isDigit isDigit))
    fun rest separated => (lexeme_numeral numeral separated).2

/-- An identifier alone is one token. -/
theorem scans_identifier {characters : List Char} (position : Nat)
    (isIdentifier : IsIdentifier characters) :
    Scans position characters [⟨.identifier, String.ofList characters, position⟩] := by
  obtain ⟨first, tail, equal, starts, continues⟩ := isIdentifier
  subst equal
  exact scans_word position (isLayout_of_continues (continues_of_starts starts))
    fun rest separated => lexeme_identifier starts continues separated

/-- Layout may stand before anything. -/
theorem Scans.layout {position : Nat} {layout characters : List Char} {tokens : List Token}
    (areLayout : ∀ character ∈ layout, isLayout character = true)
    (scans : Scans (position + layout.length) characters tokens) :
    Scans position (layout ++ characters) tokens := by
  intro rest tail separated scanned
  induction layout generalizing position with
  | nil => exact scans rest tail separated scanned
  | cons first others inductionHypothesis =>
      obtain ⟨isFirst, areOthers⟩ := List.forall_mem_cons.mp areLayout
      have shifted : position + (first :: others).length = position + 1 + others.length := by
        rw [List.length_cons]
        omega
      rw [shifted] at scans
      rw [List.cons_append, List.cons_append, scanFrom_layout position _ isFirst]
      refine inductionHypothesis areOthers scans ?_
      rw [← scanned, List.cons_append, List.length_cons]
      congr 1
      omega

/-- A space in front moves the tokens and adds none. -/
theorem Scans.space {position : Nat} {characters : List Char} {tokens : List Token}
    (scans : Scans (position + 1) characters tokens) :
    Scans position (' ' :: characters) tokens :=
  scans.layout (List.forall_mem_singleton.mpr (by decide))

/-- A symbol may stand before anything. -/
theorem Scans.symbol {position : Nat} {characters : List Char} {tokens : List Token}
    {symbol : Char} {kind : Kind} (isSymbol : kind.symbol? = some symbol)
    (scans : Scans (position + 1) characters tokens) :
    Scans position (symbol :: characters)
      (⟨kind, String.singleton symbol, position⟩ :: tokens) := by
  intro rest tail separated scanned
  rw [List.length_cons, Nat.add_comm characters.length, ← Nat.add_assoc] at scanned
  obtain ⟨notLayout, found⟩ := lexeme_symbol (characters ++ rest) isSymbol
  rw [List.cons_append, scanFrom_lexeme position notLayout found, List.length_nil, Nat.add_zero,
    List.drop_zero, scans rest tail separated scanned]
  rfl

theorem scans_nil (position : Nat) : Scans position [] [] := fun _ _ _ scanned => scanned

/-- What follows a separated text is separated when nothing stands between. -/
theorem Separated.append {first second : List Char} (firstSeparated : Separated first)
    (secondSeparated : Separated second) : Separated (first ++ second) := by
  cases first with
  | nil => exact secondSeparated
  | cons next others => exact separated_cons (firstSeparated next rfl)

/-- Text before a separated text is scanned on its own. -/
theorem Scans.before {position : Nat} {first second : List Char} {before after : List Token}
    (scansFirst : Scans position first before)
    (scansSecond : Scans (position + first.length) second after) (separated : Separated second) :
    Scans position (first ++ second) (before ++ after) := by
  intro rest tail restSeparated scanned
  rw [List.length_append, ← Nat.add_assoc] at scanned
  rw [List.append_assoc, List.append_assoc]
  exact scansFirst _ _ (separated.append restSeparated)
    (scansSecond rest tail restSeparated scanned)

/-- Text before a separator is scanned on its own. -/
theorem Scans.append {position : Nat} {first others : List Char} {next : Char}
    {before after : List Token} (scansFirst : Scans position first before)
    (scansSecond : Scans (position + first.length) (next :: others) after)
    (separates : isSeparator next = true) :
    Scans position (first ++ next :: others) (before ++ after) :=
  scansFirst.before scansSecond (separated_cons separates)

/-- A text that is scanned as the tokens gives them and the end of the input. -/
theorem Scans.scan {source : String} {tokens : List Token}
    (scans : Scans 0 source.toList tokens) :
    scan source = .ok (tokens ++ [⟨.endOfInput, "", source.toList.length⟩]) := by
  have finished : scanFrom (0 + source.toList.length) [] =
      .ok [⟨.endOfInput, "", source.toList.length⟩] := by
    rw [scanFrom, Nat.zero_add]
  have scanned := scans [] _ separated_nil finished
  rwa [List.append_nil] at scanned

/-- What is taken after a digit is a numeral together with it. -/
theorem numeral_of_numberTail {first : Char} (rest : List Char) (isDigit : first.isDigit = true) :
    ∃ value, Decimal.Numeral (first :: numberTail rest) value := by
  have whole : Decimal.IsDigits (first :: rest.takeWhile Char.isDigit) := by
    refine ⟨by simp, fun character isMember => ?_⟩
    rcases List.mem_cons.mp isMember with rfl | inTail
    · exact isDigit
    · exact List.all_eq_true.mp List.all_takeWhile character inTail
  unfold numberTail
  dsimp only
  split
  · rename_i others _
    split
    · exact ⟨_, .whole whole⟩
    · rename_i fraction nonempty
      have areFraction : Decimal.IsDigits (others.takeWhile Char.isDigit) :=
        ⟨nonempty, List.all_eq_true.mp List.all_takeWhile⟩
      exact ⟨_, .fractional whole areFraction⟩
  · exact ⟨_, .whole whole⟩

/-- The texts of numbers and identifiers are numerals and identifiers. -/
theorem lexical_of_lexeme {first : Char} {rest tail : List Char} {kind : Kind} {position : Nat}
    (found : lexeme? first rest = some (kind, tail)) :
    Lexical ⟨kind, String.ofList (first :: tail), position⟩ := by
  unfold Lexical
  rw [String.toList_ofList]
  unfold lexeme? at found
  split at found
  · rename_i isDigit
    cases found
    exact ⟨fun _ => numeral_of_numberTail rest isDigit, fun isIdentifier => by contradiction⟩
  · split at found
    · rename_i starts
      cases found
      exact ⟨fun isNumber => by contradiction, fun _ =>
        ⟨first, _, rfl, starts, List.all_eq_true.mp List.all_takeWhile⟩⟩
    · obtain ⟨symbolKind, isSymbol, equal⟩ := Option.map_eq_some_iff.mp found
      cases equal
      rw [Kind.ofSymbol_eq_some_iff] at isSymbol
      constructor
      · rintro rfl
        contradiction
      · rintro rfl
        contradiction

/-- Every token of a text has a text of its kind. -/
theorem lexical_scanFrom (position : Nat) (characters : List Char) (tokens : List Token)
    (scanned : scanFrom position characters = .ok tokens) : ∀ token ∈ tokens, Lexical token := by
  induction position, characters using scanFrom.induct generalizing tokens with
  | case1 position =>
      rw [scanFrom] at scanned
      cases scanned
      intro token isMember
      rw [List.mem_singleton.mp isMember]
      exact ⟨fun isNumber => by contradiction, fun isIdentifier => by contradiction⟩
  | case2 position first rest layout inductionHypothesis =>
      rw [scanFrom_layout position rest layout] at scanned
      exact inductionHypothesis tokens scanned
  | case3 position first rest notLayout missing =>
      rw [scanFrom, if_neg notLayout, missing] at scanned
      contradiction
  | case4 position first rest notLayout kind tail found inductionHypothesis =>
      rw [scanFrom_lexeme position (Bool.eq_false_iff.mpr notLayout) found] at scanned
      obtain ⟨after, others, equal⟩ := Except.map_eq_ok_iff.mp scanned
      subst equal
      intro token isMember
      rcases List.mem_cons.mp isMember with rfl | inAfter
      · exact lexical_of_lexeme found
      · exact inductionHypothesis after others token inAfter

end Casework.Token
