import Casework.Proofs.Formula.Diagnosis

namespace Casework

namespace Grammar

open Expression (depthLimit)

variable {phrase : Phrase} {limit : Nat} {before : List Token}

/-- The phrase has more levels than the limit, or its tree is too deep. -/
def Derivation.Exceeds (derivation : Derivation phrase) (limit : Nat) : Prop :=
  limit < derivation.levels ∨ depthLimit < derivation.height

/-- The tokens begin a phrase, and every phrase that they begin exceeds the limits. -/
structure Crowded (phrase : Phrase) (limit : Nat) (before : List Token) : Prop where
  begins : Fronts phrase before
  exceeds : ∀ (derivation : Derivation phrase) (rest after : List Token), Stops phrase rest →
    derivation.tokens ++ rest = before ++ after → derivation.Exceeds limit

/-- Every formula has a level. -/
theorem crowded_nil : Crowded .formula 0 [] :=
  ⟨⟨_, someFormula, rfl⟩, fun derivation _ _ _ _ => .inl derivation.levels_pos⟩

/-- A phrase that is too deep stays so when it goes on. -/
theorem crowded_of_height {derivation : Derivation phrase}
    (deep : depthLimit < derivation.height) : Crowded phrase limit derivation.tokens :=
  ⟨⟨[], derivation, by simp⟩, fun _ _ _ stops equal =>
    .inr (Nat.lt_of_lt_of_le deep (Derivation.height_le_of_append stops equal))⟩

/-- What is too large inside a phrase makes the phrase too large. -/
theorem Crowded.within {inner : Phrase} {consumed : List Token} {levels : Nat}
    (crowded : Crowded inner limit before) (slot : Slot phrase inner consumed levels) :
    Crowded phrase (limit + levels) (consumed ++ before) := by
  refine ⟨slot.fronts before crowded.begins, fun whole rest after stops equal => ?_⟩
  rw [List.append_assoc] at equal
  obtain ⟨part, others, partStops, sameTail, fewer, lower⟩ :=
    slot.exists_part whole rest _ stops equal
  exact (crowded.exceeds part others after partStops sameTail).imp
    (fun more => by omega) fun deep => Nat.lt_of_lt_of_le deep lower

/-- Not all operands exceed the limits, so tokens that force it are not empty. -/
theorem Crowded.exists_cons (crowded : Crowded .operand limit before) :
    ∃ first rest, before = first :: rest ∧ first.kind ≠ .minus := by
  cases before with
  | nil =>
      have exceeds := crowded.exceeds someParameter [] someParameter.tokens (stops_nil _) rfl
      rcases exceeds with levels | height
      · exact absurd levels (Nat.not_lt_zero _)
      · exact absurd height (by decide)
  | cons first rest =>
      obtain ⟨others, derivation, equal⟩ := crowded.begins
      obtain ⟨token, tail, begins, noMinus⟩ := derivation.exists_head
      rw [begins] at equal
      exact ⟨first, rest, rfl, (List.cons.inj equal).1 ▸ noMinus⟩

/-- A crowded operand is a crowded signed operand without a sign. -/
theorem Crowded.unsigned (crowded : Crowded .operand limit before) :
    Crowded .signed limit before := by
  obtain ⟨rest, derivation, equal⟩ := crowded.begins
  refine ⟨⟨rest, .unsigned derivation, equal⟩, fun other others after _ collides => ?_⟩
  obtain ⟨first, tail, rfl, noMinus⟩ := crowded.exists_cons
  obtain ⟨operand, rfl⟩ := exists_unsigned noMinus collides
  exact crowded.exceeds operand others after (stops_operand _) collides

end Grammar

namespace Expression

open Grammar

/-- Some tokens at the front already force a phrase that exceeds the limits. -/
def Crowding (phrase : Phrase) (limit : Nat) (tokens : List Token) : Prop :=
  ∃ front, front <+: tokens ∧ Crowded phrase limit front

/-- A reader that refuses tokens for their nesting has read what exceeds the limits. -/
def Reader.Crowds (reader : Reader) (phrase : Phrase) (limit : Nat) : Prop :=
  ∀ tokens error, reader.run tokens = .error error → error.cause = .nestedTooDeeply →
    Crowding phrase limit tokens

section

variable {finish token : Token} {phrase inner : Phrase} {rank : Rank} {tokens : List Token}
  {error : SyntaxError} {limit bound : Nat} {nested operand : Reader}

/-- What makes an inner phrase too large makes the phrase around it too large. -/
theorem Crowding.within {consumed rest : List Token} {levels : Nat}
    (crowding : Crowding inner limit rest) (slot : Slot phrase inner consumed levels) :
    Crowding phrase (limit + levels) (consumed ++ rest) := by
  obtain ⟨front, isFront, crowded⟩ := crowding
  exact ⟨consumed ++ front, (List.prefix_append_right_inj consumed).mpr isFront,
    crowded.within slot⟩

/-- A tree is refused for its depth when the phrase that it comes from is too high. -/
theorem crowding_of_limitDepth {tree : Expression} {derivation : Derivation phrase}
    {rest : List Token} (hasTree : derivation.tree? = some tree)
    (refused : limitDepth tree token = .error error) :
    Crowding phrase limit (derivation.tokens ++ rest) := by
  refine ⟨derivation.tokens, List.prefix_append _ _, crowded_of_height ?_⟩
  rw [← Derivation.depth_eq_height hasTree]
  unfold limitDepth at refused
  split at refused
  · contradiction
  · rename_i deep
    exact Nat.lt_of_not_le deep

/-- A missing symbol is no matter of nesting. -/
theorem not_nested_of_runSymbol {kind : Token.Kind}
    (refused : runSymbol finish kind tokens = .error error) : error.cause ≠ .nestedTooDeeply := by
  obtain ⟨found, isCause⟩ := cause_of_runSymbol refused
  simp [isCause]

/-- A number out of range is no matter of nesting. -/
theorem not_nested_of_readNumber (refused : readNumber token = .error error) :
    error.cause ≠ .nestedTooDeeply := by
  unfold readNumber at refused
  split at refused
  · contradiction
  · cases refused
    simp
  · cases refused
    simp

/-- Only the formula in the parentheses of an operand can be nested too deeply. -/
theorem crowds_readPrimary (crowds : nested.Crowds .formula limit) :
    Reader.Crowds (readPrimary finish nested) .operand limit := by
  intro tokens error refused isNested
  cases tokens with
  | nil =>
      cases refused
      contradiction
  | cons token others =>
      rw [run_readPrimary_cons] at refused
      split at refused
      · rename_i opens
        rcases Except.bind_eq_error_iff.mp refused with refused | ⟨_, _, refused⟩
        · exact (crowds others error refused isNested).within (slot_parentheses opens)
        · rcases Except.bind_eq_error_iff.mp refused with refused | ⟨_, _, refused⟩
          · exact absurd isNested (not_nested_of_runSymbol refused)
          · contradiction
      · rcases Except.bind_eq_error_iff.mp refused with refused | ⟨_, _, refused⟩
        · exact absurd isNested (not_nested_of_readNumber refused)
        · contradiction
      · contradiction
      · cases refused
        contradiction

/-- A sign is too deep only by its own tree or its operand. -/
theorem crowds_readUnary (sound : nested.Sound .formula bound)
    (crowds : nested.Crowds .formula limit) :
    Reader.Crowds (readUnary finish nested) .signed limit := by
  intro tokens error refused isNested
  have primary : Reader.Crowds (readPrimary finish nested) .operand limit :=
    crowds_readPrimary crowds
  cases tokens with
  | nil =>
      rw [run_readUnary_nil] at refused
      cases refused
      contradiction
  | cons token others =>
      by_cases isMinus : token.kind = .minus
      · rw [run_readUnary_minus nested others isMinus] at refused
        rcases Except.bind_eq_error_iff.mp refused with
          refused | ⟨⟨tree, after⟩, readOperand, refused⟩
        · exact (primary others error refused isNested).within (slot_negated isMinus)
        · obtain ⟨derivation, consumed, hasTree, _⟩ :=
            sound_readPrimary sound others tree after readOperand
          have hasNegation : (Derivation.negated token isMinus derivation).tree? =
              some (.negate tree) := by
            simp [Derivation.tree?, hasTree]
          rw [consumed]
          exact crowding_of_limitDepth hasNegation (Except.map_eq_error_iff.mp refused)
      · rw [run_readUnary_other nested others isMinus] at refused
        obtain ⟨front, isFront, crowded⟩ := primary _ error refused isNested
        exact ⟨front, isFront, crowded.unsigned⟩

/-- A loop meets a crowded operand after a whole operation, or a crowded operation. -/
theorem crowds_readOperands (rank : Rank) (sound : operand.Sound rank.item bound)
    (crowds : operand.Crowds rank.item limit) :
    Reader.Crowds (readOperands (rankOperator? rank) operand) (.operation rank) limit := by
  intro tokens error refused isNested
  obtain ⟨_, isRefused, same⟩ | ⟨last, progress, ends⟩ := run_readOperands_cases sound refused
  · cases same
    exact (crowds tokens error isRefused isNested).within (slot_first rank)
  · obtain ⟨before, consumed, hasLeft, _⟩ := progress.derives
    rw [consumed]
    cases ends with
    | @refused left token rest operator _ goesOn isRefused =>
        obtain ⟨ranked, stands⟩ := rankOperator_eq_some_iff.mp goesOn
        have crowding : Crowding (.operation rank) limit ((before.tokens ++ [token]) ++ rest) :=
          (crowds rest error isRefused isNested).within (slot_next before ranked stands)
        rwa [List.append_assoc] at crowding
    | @tooDeep left right token rest after operator _ goesOn isRight isDeep =>
        obtain ⟨ranked, stands⟩ := rankOperator_eq_some_iff.mp goesOn
        obtain ⟨item, itemConsumed, hasRight, _⟩ := sound rest right after isRight
        -- the operation with this operand is the part of the tokens that is too deep
        let joined : Derivation (.operation rank) :=
          .joined before token operator ranked stands item
        have hasTree : joined.tree? = some (.binary operator left right) := by
          simp [joined, Derivation.tree?, hasLeft, hasRight]
        have split : before.tokens ++ token :: rest = joined.tokens ++ after := by
          simp [joined, Derivation.tokens, itemConsumed]
        rw [split]
        exact crowding_of_limitDepth hasTree isDeep

theorem crowds_readAdditive (sound : nested.Sound .formula bound)
    (crowds : nested.Crowds .formula limit) :
    Reader.Crowds (readAdditive finish nested) (.operation .additive) limit :=
  crowds_readOperands .additive (sound_readOperands .multiplicative (sound_readUnary sound))
    (crowds_readOperands .multiplicative (sound_readUnary sound) (crowds_readUnary sound crowds))

/-- The branches of a conditional are crowded one level below it. -/
theorem crowds_runBranches (sound : nested.Sound .formula bound)
    (crowds : nested.Crowds .formula limit) {tree : Expression}
    {condition : Derivation (.operation .additive)} (hasCondition : condition.tree? = some tree)
    (asks : token.kind = .question)
    (refused : runBranches finish nested tree token tokens = .error error)
    (isNested : error.cause = .nestedTooDeeply) :
    Crowding .formula (limit + 1) (condition.tokens ++ token :: tokens) := by
  unfold runBranches at refused
  rcases Except.bind_eq_error_iff.mp refused with refused | ⟨⟨thenTree, after⟩, readThen, refused⟩
  · have crowding : Crowding .formula (limit + 1) ((condition.tokens ++ [token]) ++ tokens) :=
      (crowds tokens error refused isNested).within (slot_thenBranch condition asks)
    rwa [List.append_assoc] at crowding
  obtain ⟨thenBranch, consumed, hasThen, _⟩ := sound tokens thenTree after readThen
  rcases Except.bind_eq_error_iff.mp refused with refused | ⟨separated, isSeparated, refused⟩
  · exact absurd isNested (not_nested_of_runSymbol refused)
  obtain ⟨colon, colonFirst, separates⟩ := runSymbol_eq_ok_iff.mp isSeparated
  dsimp only at colonFirst
  rw [consumed, colonFirst]
  rcases Except.bind_eq_error_iff.mp refused with refused | ⟨⟨elseTree, rest⟩, readElse, refused⟩
  · have crowding : Crowding .formula (limit + 1)
        ((condition.tokens ++ token :: (thenBranch.tokens ++ [colon])) ++ separated) :=
      (crowds separated error refused isNested).within
        (slot_elseBranch condition asks thenBranch separates)
    simpa using crowding
  · obtain ⟨elseBranch, elseConsumed, hasElse, _⟩ := sound separated elseTree rest readElse
    have hasTree : (Derivation.conditional condition token colon asks separates thenBranch
        elseBranch).tree? = some (.conditional tree thenTree elseTree) := by
      simp [Derivation.tree?, hasCondition, hasThen, hasElse]
    have crowding : Crowding .formula (limit + 1) (Derivation.tokens (.conditional condition token
        colon asks separates thenBranch elseBranch) ++ rest) :=
      crowding_of_limitDepth hasTree (Except.map_eq_error_iff.mp refused)
    rw [elseConsumed]
    simpa [Derivation.tokens] using crowding

/-- A conditional is crowded in its condition or in a branch. -/
theorem crowds_readTernary (sound : nested.Sound .formula bound)
    (crowds : nested.Crowds .formula limit) :
    Reader.Crowds (readTernary finish nested) .formula (limit + 1) := by
  intro tokens error refused isNested
  rw [run_readTernary] at refused
  rcases Except.bind_eq_error_iff.mp refused with refused | ⟨⟨tree, after⟩, readCondition, refused⟩
  · exact (crowds_readAdditive sound crowds tokens error refused isNested).within
      slot_condition
  · obtain ⟨condition, consumed, hasCondition, _⟩ :=
      sound_readAdditive sound tokens tree after readCondition
    cases after with
    | nil => contradiction
    | cons question others =>
        simp only [runAfterCondition] at refused
        split at refused
        · rename_i asks
          rw [consumed]
          exact crowds_runBranches sound crowds hasCondition asks refused isNested
        · contradiction

/-- A reader without levels refuses every formula, and each level of nesting takes one. -/
theorem crowds_readNested (finish : Token) (limit : Nat) :
    Reader.Crowds (readNested finish limit) .formula limit := by
  induction limit with
  | zero => exact fun tokens error _ _ => ⟨[], List.nil_prefix, crowded_nil⟩
  | succ limit inductionHypothesis =>
      exact crowds_readTernary (sound_readNested finish limit) inductionHypothesis

/-- No other cause has this message. -/
theorem nestedTooDeeply_of_message (isMessage : error.message = "Formula nested too deeply") :
    error.cause = .nestedTooDeeply := by
  have isFirst := congrArg (fun message => message.toList.head?) isMessage
  unfold SyntaxError.message at isFirst
  cases isCause : error.cause with
  | nestedTooDeeply => rfl
  | _ =>
      rw [isCause] at isFirst
      simp [String.toList_append] at isFirst

/-- A list of tokens is refused for its nesting after what exceeds the limits. -/
theorem crowding_of_readAll (refused : readAll finish tokens = .error error)
    (isNested : error.cause = .nestedTooDeeply) : Crowding .formula depthLimit tokens := by
  rw [readAll_eq_run] at refused
  rcases Except.bind_eq_error_iff.mp refused with refused | ⟨⟨tree, rest⟩, _, refused⟩
  · exact crowds_readNested finish depthLimit tokens error refused isNested
  · cases rest with
    | nil => contradiction
    | cons token rest =>
        cases refused
        contradiction

end

/-- The limit on levels counts the outermost formula, so one formula less may be nested in it. -/
theorem exceeds_depthLimit_iff (derivation : Derivation .formula) :
    derivation.Exceeds depthLimit ↔ 63 < derivation.nesting ∨ 64 < derivation.height := by
  unfold Derivation.Exceeds
  rw [derivation.levels_eq]
  show 64 < derivation.nesting + 1 ∨ 64 < derivation.height ↔ _
  omega

/-- The outermost formula takes the first of the 64 levels. -/
theorem fits_depthLimit_iff (derivation : Derivation .formula) (tree : Expression) :
    Fits depthLimit derivation.levels tree ↔ derivation.nesting ≤ 63 ∧ tree.depth ≤ 64 := by
  unfold Fits
  rw [derivation.levels_eq]
  show derivation.nesting + 1 ≤ 64 ∧ tree.depth ≤ 64 ↔ _
  omega

/-- A formula whose literals are finite is accepted exactly when at most 63 parentheses and branches
are nested inside one another and its tree has at most the depth 64. It is refused for its nesting
otherwise. Whatever else is refused for its nesting begins like formulas that are all too large. -/
theorem parse_nesting (source : String) :
    (∀ (derivation : Derivation .formula) (tree : Expression),
      Token.scan source = .ok (derivation.tokens ++ [⟨.endOfInput, "", source.length⟩]) →
      derivation.tree? = some tree →
        (derivation.nesting ≤ 63 ∧ tree.depth ≤ 64 → parse source = .ok tree) ∧
        (¬ (derivation.nesting ≤ 63 ∧ tree.depth ≤ 64) →
          ∃ error, parse source = .error error ∧
            error.message = "Formula nested too deeply")) ∧
    ∀ error, parse source = .error error → error.message = "Formula nested too deeply" →
      ∃ tokens front, Token.scan source = .ok tokens ∧ front <+: tokens ∧ Begins front ∧
        ∀ derivation : Derivation .formula, front <+: derivation.tokens →
          63 < derivation.nesting ∨ 64 < derivation.height := by
  constructor
  · intro derivation tree scanned hasTree
    have isRead : parse source =
        readAll ⟨.endOfInput, "", source.length⟩ derivation.tokens := by
      rw [parse, scanned]
      exact ofTokens_append rfl derivation.kind_ne_endOfInput
    rw [isRead, ← fits_depthLimit_iff]
    refine ⟨fun fits => readAll_eq_ok_iff.mpr ⟨derivation, rfl, hasTree, fits⟩, fun deep => ?_⟩
    obtain ⟨position, refused⟩ := readAll_of_not_fits hasTree deep
    exact ⟨_, refused, rfl⟩
  · intro error refused isMessage
    have isNested := nestedTooDeeply_of_message isMessage
    rcases Except.bind_eq_error_iff.mp refused with notScanned | ⟨tokens, scanned, _⟩
    · obtain ⟨⟨character, isCause⟩, _⟩ := Token.unrecognised_of_scan notScanned
      rw [isCause] at isNested
      contradiction
    · obtain ⟨word, finish, rfl, _, _, _, isRead⟩ := exists_word_of_scan scanned
      obtain ⟨front, isFront, crowded⟩ := crowding_of_readAll (isRead ▸ refused) isNested
      refine ⟨_, front, scanned, isFront.trans (List.prefix_append _ _), crowded.begins,
        fun derivation begins => ?_⟩
      obtain ⟨after, equal⟩ := begins
      rw [← exceeds_depthLimit_iff]
      exact crowded.exceeds derivation [] after (stops_nil _) (by rw [equal, List.append_nil])

/-- The given count of parentheses stands around the parameter `width`. -/
def enclosedText : (count : Nat) → List Char
  | 0 => "width".toList
  | count + 1 => '(' :: (enclosedText count ++ [')'])

/-- This is the formula in so many parentheses from an offset on. -/
def enclosed : (count offset : Nat) → Derivation .formula
  | 0, offset =>
    .unconditional (.lone (.lone (.unsigned (.parameter ⟨.identifier, "width", offset⟩ rfl))))
  | count + 1, offset =>
    .unconditional (.lone (.lone (.unsigned (.parentheses ⟨.leftParen, "(", offset⟩
      ⟨.rightParen, ")", offset + 1 + (enclosedText count).length⟩ rfl rfl
      (enclosed count (offset + 1))))))

/-- Every token of an enclosed name is scanned where it stands. -/
theorem scans_enclosed (count offset : Nat) :
    Token.Scans offset (enclosedText count) (enclosed count offset).tokens := by
  induction count generalizing offset with
  | zero =>
      exact Token.scans_identifier offset
        ⟨'w', ['i', 'd', 't', 'h'], rfl, by decide, List.all_eq_true.mp (by decide)⟩
  | succ count inductionHypothesis =>
      have closes : Token.Scans (offset + 1 + (enclosedText count).length) [')']
          [⟨.rightParen, ")", offset + 1 + (enclosedText count).length⟩] :=
        (Token.scans_nil _).symbol rfl
      exact ((inductionHypothesis (offset + 1)).append closes (by decide)).symbol rfl

/-- Parentheses add a level each and leave the tree as it is. -/
theorem tree_enclosed (count offset : Nat) :
    (enclosed count offset).tree? = some (.parameter "width") ∧
      (enclosed count offset).nesting = count := by
  induction count generalizing offset with
  | zero => exact ⟨rfl, rfl⟩
  | succ count inductionHypothesis =>
      obtain ⟨hasTree, nested⟩ := inductionHypothesis (offset + 1)
      exact ⟨hasTree, congrArg (· + 1) nested⟩

/-- The text of an enclosed name has exactly its tokens. -/
theorem scan_enclosed (count : Nat) :
    let source := String.ofList (enclosedText count)
    Token.scan source =
      .ok ((enclosed count 0).tokens ++ [⟨.endOfInput, "", source.length⟩]) := by
  intro source
  have scans := scans_enclosed count 0
  rw [← String.toList_ofList (l := enclosedText count)] at scans
  exact scans.scan

/-- A parameter in 63 parentheses is accepted. -/
theorem parse_nesting_enclosed :
    let source := String.ofList (enclosedText 63)
    Token.scan source =
        .ok ((enclosed 63 0).tokens ++ [⟨.endOfInput, "", source.length⟩]) ∧
      (enclosed 63 0).nesting = 63 ∧ parse source = .ok (.parameter "width") := by
  intro source
  obtain ⟨hasTree, nested⟩ := tree_enclosed 63 0
  refine ⟨scan_enclosed 63, nested, ?_⟩
  exact ((parse_nesting source).1 _ _ (scan_enclosed 63) hasTree).1
    ⟨Nat.le_of_eq nested, by decide⟩

/-- A parameter in exactly 64 parentheses is a formula of the depth one, and it is refused. -/
theorem exists_enclosed_refused :
    let source := String.ofList (enclosedText 64)
    Token.scan source =
        .ok ((enclosed 64 0).tokens ++ [⟨.endOfInput, "", source.length⟩]) ∧
      (enclosed 64 0).tree? = some (.parameter "width") ∧ (enclosed 64 0).nesting = 64 ∧
      depth (.parameter "width") = 1 ∧
      ∃ error, parse source = .error error ∧ error.message = "Formula nested too deeply" := by
  intro source
  obtain ⟨hasTree, nested⟩ := tree_enclosed 64 0
  have scanned : Token.Scans 0 source.toList (enclosed 64 0).tokens := by
    rw [String.toList_ofList]
    exact scans_enclosed 64 0
  obtain ⟨finish, isRead⟩ := parse_of_scans scanned
  have deep : ¬ Fits depthLimit (enclosed 64 0).levels (.parameter "width") := by
    rw [fits_depthLimit_iff, nested]
    decide
  obtain ⟨position, refused⟩ := @readAll_of_not_fits finish _ _ hasTree deep
  rw [refused] at isRead
  exact ⟨scan_enclosed 64, hasTree, nested, rfl, _, isRead, rfl⟩

end Expression

end Casework
