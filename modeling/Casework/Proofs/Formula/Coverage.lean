import Casework.Proofs.Formula.Segmentation

namespace Casework.Token

/-- The token stands over the offset. -/
def Covers (token : Token) (offset : Nat) : Prop :=
  token.position ≤ offset ∧ offset < token.position + token.text.length

/-- Tokens tile a text up to a limit. Each one is the longest of its kind where it stands, no two of
them overlap, and what none of them covers is layout. -/
structure Tiles (text : List Char) (tokens : List Token) (limit : Nat) : Prop where
  leads : ∀ token ∈ tokens, Leads token.kind token.text.toList (text.drop token.position)
  within : ∀ token ∈ tokens, token.position + token.text.length ≤ limit
  apart : tokens.Pairwise fun first second =>
    first.position + first.text.length ≤ second.position
  layout : ∀ offset < limit, ∀ character, text[offset]? = some character →
    (∃ token ∈ tokens, token.Covers offset) ∨ isLayout character = true

section

variable {text : List Char} {tokens : List Token} {token : Token} {limit : Nat}

/-- A tile is not empty and does not end the input. -/
theorem Tiles.of_mem (tiles : Tiles text tokens limit) (isMember : token ∈ tokens) :
    0 < token.text.length ∧ token.kind ≠ .endOfInput := by
  have isLexeme := (tiles.leads token isMember).isLexeme
  constructor
  · obtain ⟨first, rest, isText, _⟩ := isLexeme.exists_head
    have length : token.text.length = (first :: rest).length := congrArg List.length isText
    rw [length]
    exact Nat.succ_pos _
  · intro endsInput
    rw [endsInput] at isLexeme
    obtain ⟨symbol, isSymbol, _⟩ := isLexeme
    contradiction

theorem getElem?_of_drop_eq_cons {offset : Nat} {character : Char} {rest : List Char}
    (stands : text.drop offset = character :: rest) : text[offset]? = some character := by
  rw [← List.head?_drop, stands, List.head?_cons]

/-- A cut text is tiled by the tokens that are cut from it. -/
theorem Segments.tiles {offset : Nat} (segments : Segments text tokens offset) :
    Tiles text tokens offset := by
  induction segments with
  | start => exact ⟨by simp, by simp, .nil, fun _ inside => absurd inside (Nat.not_lt_zero _)⟩
  | @layout tokens offset character rest segments stands layout inductionHypothesis =>
      refine ⟨inductionHypothesis.leads, fun token isMember => ?_, inductionHypothesis.apart,
        fun place inside found isFound => ?_⟩
      · exact Nat.le_succ_of_le (inductionHypothesis.within token isMember)
      · rcases Nat.lt_succ_iff_lt_or_eq.mp inside with before | rfl
        · exact inductionHypothesis.layout place before found isFound
        · rw [getElem?_of_drop_eq_cons stands, Option.some.injEq] at isFound
          exact .inr (isFound ▸ layout)
  | @token tokens offset kind word segments leads inductionHypothesis =>
      have length : (String.ofList word).length = word.length := by simp
      refine ⟨?_, ?_, ?_, fun place inside found isFound => ?_⟩
      · refine List.forall_mem_append.mpr
          ⟨inductionHypothesis.leads, List.forall_mem_singleton.mpr ?_⟩
        rw [String.toList_ofList]
        exact leads
      · refine List.forall_mem_append.mpr
          ⟨fun token isMember => ?_, List.forall_mem_singleton.mpr ?_⟩
        · exact Nat.le_add_right_of_le (inductionHypothesis.within token isMember)
        · exact Nat.le_of_eq (congrArg (offset + ·) length)
      · refine List.pairwise_append.mpr
          ⟨inductionHypothesis.apart, List.pairwise_singleton _ _, fun token isMember => ?_⟩
        exact List.forall_mem_singleton.mpr (inductionHypothesis.within token isMember)
      · by_cases before : place < offset
        · rcases inductionHypothesis.layout place before found isFound with
            ⟨token, isMember, covers⟩ | layout
          · exact .inl ⟨token, List.mem_append_left _ isMember, covers⟩
          · exact .inr layout
        · refine .inl ⟨_, List.mem_append_right _ (List.mem_singleton_self _), ?_⟩
          rw [Covers, length]
          exact ⟨Nat.le_of_not_lt before, inside⟩

/-- The tokens up to the first one that covers the last place of a tiling are its last tokens. -/
theorem Tiles.exists_init {place : Nat} (tiles : Tiles text tokens (place + 1))
    (isMember : token ∈ tokens) (covers : token.Covers place) :
    ∃ init, tokens = init ++ [token] ∧ token.position + token.text.length = place + 1 ∧
      Tiles text init token.position := by
  have within := tiles.within token isMember
  have atEnd : token.position + token.text.length = place + 1 :=
    Nat.le_antisymm within covers.2
  obtain ⟨init, after, rfl⟩ := List.append_of_mem isMember
  obtain ⟨initApart, others, beforeOthers⟩ := List.pairwise_append.mp tiles.apart
  have isLast : after = [] := by
    refine List.eq_nil_iff_forall_not_mem.mpr fun next isNext => ?_
    have isTile : next ∈ init ++ token :: after := by simp [isNext]
    have later := (List.pairwise_cons.mp others).1 next isNext
    have inside := tiles.within next isTile
    have nonempty := (tiles.of_mem isTile).1
    omega
  subst isLast
  have beforeToken : ∀ first ∈ init, first.position + first.text.length ≤ token.position :=
    fun first isFirst => beforeOthers first isFirst token (List.mem_singleton_self token)
  refine ⟨init, rfl, atEnd, fun first isFirst => ?_, beforeToken, initApart, ?_⟩
  · exact tiles.leads first (List.mem_append_left _ isFirst)
  · intro offset before character isCharacter
    have inside : offset < place + 1 := by omega
    refine (tiles.layout offset inside character isCharacter).imp_left ?_
    rintro ⟨found, isFound, isCovered⟩
    rcases List.mem_append.mp isFound with inInit | isToken
    · exact ⟨found, inInit, isCovered⟩
    · rw [List.mem_singleton.mp isToken] at isCovered
      exact absurd isCovered.1 (Nat.not_le_of_lt before)

/-- Without a token over the last place a tiling goes on for layout. -/
theorem Tiles.before {place : Nat} (tiles : Tiles text tokens (place + 1))
    (uncovered : ∀ token ∈ tokens, ¬ token.Covers place) : Tiles text tokens place := by
  refine ⟨tiles.leads, fun token isMember => ?_, tiles.apart, fun offset inside => ?_⟩
  · have within := tiles.within token isMember
    have nonempty := (tiles.of_mem isMember).1
    have notOver := uncovered token isMember
    unfold Covers at notOver
    omega
  · exact tiles.layout offset (Nat.lt_succ_of_lt inside)

/-- A tiled text is cut into its tiles. The induction takes the last place away, and the whole token
over it when there is one. -/
theorem Tiles.segments (tiles : Tiles text tokens limit) (inside : limit ≤ text.length) :
    Segments text tokens limit := by
  induction limit using Nat.strongRecOn generalizing tokens with
  | ind limit inductionHypothesis =>
      cases limit with
      | zero =>
          have none : tokens = [] := List.eq_nil_iff_forall_not_mem.mpr fun token isMember => by
            have within := tiles.within token isMember
            have nonempty := (tiles.of_mem isMember).1
            omega
          rw [none]
          exact .start
      | succ place =>
          by_cases covered : ∃ token ∈ tokens, token.Covers place
          · obtain ⟨token, isMember, covers⟩ := covered
            have leads := tiles.leads token isMember
            obtain ⟨init, rfl, atEnd, before⟩ := tiles.exists_init isMember covers
            have nonempty := (tiles.of_mem isMember).1
            have segments := inductionHypothesis token.position (by omega) before (by omega)
            have extended := segments.token leads
            rw [String.ofList_toList] at extended
            rw [← atEnd]
            exact extended
          · have uncovered : ∀ token ∈ tokens, ¬ token.Covers place :=
              fun token isMember covers => covered ⟨token, isMember, covers⟩
            have stands := List.drop_eq_getElem_cons (Nat.lt_of_succ_le inside)
            have layout := (tiles.layout place (Nat.lt_succ_self _) _
              (getElem?_of_drop_eq_cons stands)).resolve_left covered
            exact .layout (inductionHypothesis place (Nat.lt_succ_self _)
              (tiles.before uncovered) (by omega)) stands layout

/-- A tiling of the front of a text is a tiling of that front alone. -/
theorem Tiles.take (tiles : Tiles text tokens limit) :
    Tiles (text.take limit) tokens limit := by
  refine ⟨fun token isMember => ?_, tiles.within, tiles.apart, fun offset inside => ?_⟩
  · obtain ⟨isFront, isLexeme, isLongest⟩ := tiles.leads token isMember
    have within := tiles.within token isMember
    have fits : token.text.toList.length ≤ limit - token.position := by
      rw [String.length_toList]
      omega
    rw [List.drop_take]
    refine ⟨List.prefix_take_iff.mpr ⟨isFront, fits⟩, isLexeme, fun other isOther => ?_⟩
    exact isLongest other (isOther.trans (List.take_prefix _ _))
  · rw [List.getElem?_take_of_lt inside]
    exact tiles.layout offset inside

end

/-- A text is scanned exactly as the tokens that tile it, and then its end. -/
theorem scan_eq_ok_iff {source : String} {tokens : List Token} :
    scan source = .ok tokens ↔
      ∃ tiles, tokens = tiles ++ [⟨.endOfInput, "", source.length⟩] ∧
        Tiles source.toList tiles source.length := by
  constructor
  · intro scanned
    obtain ⟨tiles, isTiled, segments⟩ := segments_of_scan scanned
    exact ⟨tiles, isTiled, segments.tiles⟩
  · rintro ⟨tiles, rfl, areTiles⟩
    have segments := areTiles.segments (Nat.le_of_eq String.length_toList.symm)
    have finished : source.toList.drop source.length = [] :=
      List.drop_eq_nil_iff.mpr (Nat.le_of_eq String.length_toList)
    rw [scan_of_segments segments, finished, scanFrom]
    rfl

/-- The tokens tile the text up to the offset, and the character there neither is layout nor begins
a token of any kind. -/
structure Halts (text : List Char) (tokens : List Token) (character : Char) (offset : Nat) :
    Prop where
  tiles : Tiles text tokens offset
  stands : text[offset]? = some character
  notLayout : isLayout character = false
  startsNothing : ∀ kind word, word <+: text.drop offset → ¬ IsLexeme kind word

/-- A scan reports the character at which it stops. -/
theorem Halts.scan {source : String} {tokens : List Token} {character : Char} {offset : Nat}
    (halts : Halts source.toList tokens character offset) :
    scan source = .error ⟨.unexpectedCharacter character, offset⟩ := by
  obtain ⟨inside, isCharacter⟩ := List.getElem?_eq_some_iff.mp halts.stands
  have stands := List.drop_eq_getElem_cons inside
  rw [isCharacter] at stands
  have startsNothing := halts.startsNothing
  rw [stands] at startsNothing
  exact scan_of_startsNothing (halts.tiles.segments (Nat.le_of_lt inside)) stands halts.notLayout
    startsNothing

/-- The front that was tiled before the scanner halted is scanned on its own as the same tokens. -/
theorem Halts.scan_take {source : String} {tokens : List Token} {character : Char} {offset : Nat}
    (halts : Halts source.toList tokens character offset) :
    Token.scan (String.ofList (source.toList.take offset)) =
      .ok (tokens ++ [⟨.endOfInput, "", offset⟩]) := by
  obtain ⟨inside, _⟩ := List.getElem?_eq_some_iff.mp halts.stands
  have length : (String.ofList (source.toList.take offset)).length = offset := by
    rw [String.length_ofList, List.length_take, Nat.min_eq_left (Nat.le_of_lt inside)]
  refine scan_eq_ok_iff.mpr ⟨tokens, by rw [length], ?_⟩
  rw [String.toList_ofList, length]
  exact halts.tiles.take

/-- A text that is refused halts the scanner at the place of its error. -/
theorem exists_halts_of_scan {source : String} {error : SyntaxError}
    (refused : scan source = .error error) :
    ∃ tokens character, error.cause = .unexpectedCharacter character ∧
      Halts source.toList tokens character error.position := by
  obtain ⟨-, tokens, character, rest, segments, stands, notLayout, startsNothing⟩ :=
    unrecognised_of_scan refused
  rw [← stands] at startsNothing
  have halts : Halts source.toList tokens character error.position :=
    ⟨segments.tiles, getElem?_of_drop_eq_cons stands, notLayout, startsNothing⟩
  have equal := Except.error.inj (refused.symm.trans halts.scan)
  exact ⟨tokens, character, congrArg SyntaxError.cause equal, halts⟩

/-- A text is scanned exactly as the tokens that tile it, each the longest of its kind, and nothing
but layout stands between them. The end of the input comes last and nowhere else. Every other text
is refused at the least offset where a tiling of the text before it halts, and that front alone is
scanned as the same tokens. -/
theorem scan_tiles (source : String) :
    (∀ tokens, scan source = .ok tokens ↔
      ∃ tiles, tokens = tiles ++ [⟨.endOfInput, "", source.length⟩] ∧
        (∀ token ∈ tiles, token.kind ≠ .endOfInput) ∧
        Tiles source.toList tiles source.length) ∧
    ∀ error, scan source = .error error ↔
      ∃ tiles character, error.cause = .unexpectedCharacter character ∧
        Halts source.toList tiles character error.position ∧
        (∀ others other offset, Halts source.toList others other offset →
          error.position ≤ offset) ∧
        scan (String.ofList (source.toList.take error.position)) =
          .ok (tiles ++ [⟨.endOfInput, "", error.position⟩]) := by
  constructor
  · intro tokens
    rw [scan_eq_ok_iff]
    constructor
    · rintro ⟨tiles, isTiled, areTiles⟩
      exact ⟨tiles, isTiled, fun token isMember => (areTiles.of_mem isMember).2, areTiles⟩
    · rintro ⟨tiles, isTiled, -, areTiles⟩
      exact ⟨tiles, isTiled, areTiles⟩
  · intro error
    constructor
    · intro refused
      obtain ⟨tiles, character, isCause, halts⟩ := exists_halts_of_scan refused
      refine ⟨tiles, character, isCause, halts, fun others other offset alsoHalts => ?_,
        halts.scan_take⟩
      -- a scan has one outcome, so a tiling can halt only there
      have equal := Except.error.inj (refused.symm.trans alsoHalts.scan)
      exact Nat.le_of_eq (congrArg SyntaxError.position equal)
    · rintro ⟨tiles, character, isCause, halts, -, -⟩
      rw [halts.scan, ← isCause]

/-- A number ends before a point that no digit follows, and nothing begins with that point. -/
example : scan "a1.5" = .error ⟨.unexpectedCharacter '.', 2⟩ := by cbv

end Casework.Token
