import Casework.Bindings.Basic
import Casework.Formula.Evaluation
import Casework.Proofs.Formula.Acceptance
import Casework.Proofs.Formula.Spelling

namespace Casework.Expression

open Grammar Token

/-- The tokens before the end of a stream are read as a formula. -/
theorem ofTokens_append {word : List Token} {finish : Token} (ends : finish.kind = .endOfInput)
    (inside : ∀ token ∈ word, token.kind ≠ .endOfInput) :
    ofTokens (word ++ [finish]) = readAll finish word := by
  have isEnd : endsInput finish = true := by simp [endsInput, ends]
  have continues : ∀ token ∈ word, (!endsInput token) = true := by
    intro token isMember
    simpa [endsInput] using inside token isMember
  have stops : ∀ token ∈ [finish].head?, (!endsInput token) = false := by
    intro token isHead
    cases isHead
    rw [isEnd]
    rfl
  have missing : word.find? endsInput = none :=
    List.find?_eq_none.mpr fun token isMember => by simpa using continues token isMember
  rw [ofTokens, (takeWhile_append continues stops).1, List.find?_append, missing]
  simp [isEnd]

/-- A text that is scanned as the tokens of a formula is read like these tokens. -/
theorem parse_of_scans {source : String} {derivation : Derivation .formula}
    (scans : Scans 0 source.toList derivation.tokens) :
    ∃ finish, parse source = readAll finish derivation.tokens := by
  refine ⟨⟨.endOfInput, "", source.toList.length⟩, ?_⟩
  rw [parse, scans.scan]
  exact ofTokens_append rfl derivation.kind_ne_endOfInput

@[simp]
theorem toList_print (tree : Expression) : tree.print.toList = tree.characters :=
  String.toList_ofList

/-- The printed text of a tree is read like the tokens of its normal form. -/
theorem exists_derivation_print {tree : Expression} (printable : tree.Printable) :
    ∃ (derivation : Derivation .formula) (finish : Token),
      derivation.tree? = some tree.normal ∧ derivation.levels = 1 + tree.textLevels ∧
        parse tree.print = readAll finish derivation.tokens := by
  have spells := (textPhrase_signed (spells_characters printable)).formula
  obtain ⟨derivation, hasTree, hasLevels, scans⟩ := spells 0
  rw [← toList_print] at scans
  obtain ⟨finish, isRead⟩ := parse_of_scans scans
  exact ⟨derivation, finish, hasTree, hasLevels, isRead⟩

/-- The text of a tree within the limits is read as the normal form of the tree. -/
theorem parse_print_of_fits {tree : Expression} (printable : tree.Printable)
    (fits : Fits depthLimit (1 + tree.textLevels) tree.normal) :
    parse tree.print = .ok tree.normal := by
  obtain ⟨derivation, finish, hasTree, hasLevels, isRead⟩ := exists_derivation_print printable
  rw [← hasLevels] at fits
  rw [isRead]
  exact readAll_eq_ok_iff.mpr ⟨derivation, rfl, hasTree, fits⟩

/-- The text of any other tree is refused for its nesting. -/
theorem parse_print_of_not_fits {tree : Expression} (printable : tree.Printable)
    (deep : ¬ Fits depthLimit (1 + tree.textLevels) tree.normal) :
    ∃ error, parse tree.print = .error error ∧ error.message = "Formula nested too deeply" := by
  obtain ⟨derivation, finish, hasTree, hasLevels, isRead⟩ := exists_derivation_print printable
  rw [← hasLevels] at deep
  obtain ⟨position, refused⟩ := @readAll_of_not_fits finish derivation tree.normal hasTree deep
  exact ⟨_, isRead.trans refused, rfl⟩

/-- Only a negative number has fewer than zero units. -/
theorem negate_magnitude {value : Binary64.Finite} (below : value.units < 0) :
    value.magnitude.negate = value := by
  refine Binary64.Finite.eq_iff.mpr ⟨?_, rfl⟩
  cases negative : value.negative with
  | true => rfl
  | false =>
      simp only [Binary64.Finite.units, negative] at below
      exact absurd below (by simp)

/-- The normal form of a tree evaluates like the tree. -/
theorem evaluate_normal (parameters : String → Option Value) (tree : Expression) :
    tree.normal.evaluate parameters = tree.evaluate parameters := by
  induction tree with
  | number value =>
      unfold normal
      by_cases below : value.units < 0
      · rw [if_pos below]
        change Except.ok (Value.number value.magnitude.negate) = _
        rw [negate_magnitude below]
        rfl
      · rw [if_neg below]
  | parameter name => rfl
  | negate operand inductionHypothesis =>
      simp only [normal, evaluate, inductionHypothesis]
  | binary operator left right leftHypothesis rightHypothesis =>
      simp only [normal, evaluate, leftHypothesis, rightHypothesis]
  | conditional condition thenBranch elseBranch first second third =>
      simp only [normal, evaluate, first, second, third]

/-- The printed text of a tree is read as its normal form exactly within the two limits, and it is
refused for its nesting otherwise. The normal form always evaluates like the tree. -/
theorem parse_print (tree : Expression) (printable : tree.Printable) :
    (1 + tree.textLevels ≤ 64 ∧ tree.normal.depth ≤ 64 →
      parse tree.print = .ok tree.normal) ∧
    (¬ (1 + tree.textLevels ≤ 64 ∧ tree.normal.depth ≤ 64) →
      ∃ error, parse tree.print = .error error ∧ error.message = "Formula nested too deeply") ∧
    ∀ bindings : Bindings,
      tree.normal.evaluate bindings.get? = tree.evaluate bindings.get? :=
  ⟨parse_print_of_fits printable, parse_print_of_not_fits printable,
    fun bindings => evaluate_normal bindings.get? tree⟩

/-- A negative literal and a repeated negation are read back in normal form. -/
theorem parse_print_product :
    let three : Binary64.Finite := ⟨false, 3 * Binary64.unitsPerOne, by decide +kernel⟩
    let repeated : Expression := .negate (.negate (.parameter "x"))
    parse (print (.binary .mul (.number three.negate) repeated)) =
      .ok (.binary .mul (.negate (.number three)) repeated) := by
  intro three repeated
  have printable : Printable (.binary .mul (.number three.negate) repeated) := by
    refine ⟨fun isZero => ?_, 'x', [], by decide, by decide, by simp⟩
    exact absurd isZero.2 (by decide +kernel)
  have isNormal : normal (.binary .mul (.number three.negate) repeated) =
      .binary .mul (.negate (.number three)) repeated := by decide +kernel
  rw [← isNormal]
  exact (parse_print _ printable).1 (by decide +kernel)

/-- The literals have no sign, and the names are identifiers. -/
def Written : Expression → Prop
  | .number value => value.negative = false
  | .parameter name => IsIdentifier name.toList
  | .negate operand => operand.Written
  | .binary _ left right => left.Written ∧ right.Written
  | .conditional condition thenBranch elseBranch =>
    condition.Written ∧ thenBranch.Written ∧ elseBranch.Written

/-- What is written has no negative zero and only identifiers. -/
theorem Written.printable {tree : Expression} (written : tree.Written) : tree.Printable := by
  induction tree with
  | number value =>
      have unsigned : value.negative = false := written
      simp [Printable, unsigned]
  | parameter name => exact written
  | negate operand inductionHypothesis => exact inductionHypothesis written
  | binary operator left right leftHypothesis rightHypothesis =>
      exact ⟨leftHypothesis written.1, rightHypothesis written.2⟩
  | conditional condition thenBranch elseBranch first second third =>
      exact ⟨first written.1, second written.2.1, third written.2.2⟩

/-- A tree without signs in its literals is its own normal form. -/
theorem Written.normal_eq {tree : Expression} (written : tree.Written) : tree.normal = tree := by
  induction tree with
  | number value =>
      have unsigned : value.negative = false := written
      have notBelow : ¬ value.units < 0 := by simp [Binary64.Finite.units, unsigned]
      exact if_neg notBelow
  | parameter name => rfl
  | negate operand inductionHypothesis => simp only [normal, inductionHypothesis written]
  | binary operator left right leftHypothesis rightHypothesis =>
      simp only [normal, leftHypothesis written.1, rightHypothesis written.2]
  | conditional condition thenBranch elseBranch first second third =>
      simp only [normal, first written.1, second written.2.1, third written.2.2]

/-- The literal of a numeral has no sign. -/
theorem negative_of_literal {text : String} {decimal : Decimal} {value : Binary64.Finite}
    (numeral : Decimal.Numeral text.toList decimal) (denotes : literal? text = some value) :
    value.negative = false := by
  rw [literal_of_numeral numeral] at denotes
  have unsigned := Decimal.isNegative_toBinary64 false decimal
  cases result : decimal.toBinary64 false with
  | finite found =>
      rw [result] at denotes unsigned
      cases denotes
      exact unsigned
  | infinite negative =>
      rw [result] at denotes
      contradiction
  | notNumber =>
      rw [result] at denotes
      contradiction

/-- Tokens of a text form a tree that is written without signs. -/
theorem written_of_derivation {phrase : Phrase} {derivation : Derivation phrase}
    {tree : Expression} (lexical : ∀ token ∈ derivation.tokens, Lexical token)
    (hasTree : derivation.tree? = some tree) : tree.Written := by
  induction derivation generalizing tree with
  | number token isNumber =>
      obtain ⟨value, denotes, equal⟩ := Option.map_eq_some_iff.mp hasTree
      obtain ⟨decimal, numeral⟩ := (lexical token (List.mem_singleton_self token)).1 isNumber
      subst equal
      exact negative_of_literal numeral denotes
  | parameter token isIdentifier =>
      cases hasTree
      exact (lexical token (List.mem_singleton_self token)).2 isIdentifier
  | parentheses opening closing opens closes inner inductionHypothesis =>
      have inside := (List.forall_mem_cons.mp lexical).2
      exact inductionHypothesis (List.forall_mem_append.mp inside).1 hasTree
  | unsigned operand inductionHypothesis => exact inductionHypothesis lexical hasTree
  | negated minus isMinus operand inductionHypothesis =>
      obtain ⟨inner, hasInner, equal⟩ := Option.map_eq_some_iff.mp hasTree
      subst equal
      exact @inductionHypothesis inner (List.forall_mem_cons.mp lexical).2 hasInner
  | lone item inductionHypothesis => exact inductionHypothesis lexical hasTree
  | joined left symbol operator ranked stands right leftHypothesis rightHypothesis =>
      obtain ⟨leftTree, hasLeft, joined⟩ := Option.bind_eq_some_iff.mp hasTree
      obtain ⟨rightTree, hasRight, equal⟩ := Option.bind_eq_some_iff.mp joined
      obtain ⟨leftLexical, others⟩ := List.forall_mem_append.mp lexical
      obtain ⟨_, rightLexical⟩ := List.forall_mem_cons.mp others
      cases equal
      exact ⟨leftHypothesis leftLexical hasLeft, rightHypothesis rightLexical hasRight⟩
  | unconditional sum inductionHypothesis => exact inductionHypothesis lexical hasTree
  | conditional condition question colon asks separates thenBranch elseBranch first second third =>
      obtain ⟨conditionTree, hasCondition, branches⟩ := Option.bind_eq_some_iff.mp hasTree
      obtain ⟨thenTree, hasThen, joined⟩ := Option.bind_eq_some_iff.mp branches
      obtain ⟨elseTree, hasElse, equal⟩ := Option.bind_eq_some_iff.mp joined
      obtain ⟨conditionLexical, afterCondition⟩ := List.forall_mem_append.mp lexical
      obtain ⟨_, branchesLexical⟩ := List.forall_mem_cons.mp afterCondition
      obtain ⟨thenLexical, afterThen⟩ := List.forall_mem_append.mp branchesLexical
      obtain ⟨_, elseLexical⟩ := List.forall_mem_cons.mp afterThen
      cases equal
      exact ⟨first conditionLexical hasCondition, second thenLexical hasThen,
        third elseLexical hasElse⟩

/-- The tree of a text is written without signs and stays within the limit. -/
theorem written_of_parse {source : String} {tree : Expression}
    (accepted : parse source = .ok tree) : tree.Written ∧ tree.depth ≤ depthLimit := by
  obtain ⟨tokens, scanned, isRead⟩ := Except.bind_eq_ok_iff.mp accepted
  obtain ⟨derivation, equal, hasTree, fits⟩ := readAll_eq_ok_iff.mp isRead
  refine ⟨written_of_derivation (fun token isMember => ?_) hasTree, fits.2⟩
  rw [equal] at isMember
  exact lexical_scanFrom 0 source.toList tokens scanned token (List.takeWhile_subset _ isMember)

/-- The printed text of the tree of a text is read as that tree exactly when the levels of the
printed text stay within the limit. It is refused for its nesting otherwise. -/
theorem parse_print_of_parse (source : String) (tree : Expression)
    (accepted : parse source = .ok tree) :
    (parse tree.print = .ok tree ↔ 1 + tree.textLevels ≤ 64) ∧
    (¬ 1 + tree.textLevels ≤ 64 →
      ∃ error, parse tree.print = .error error ∧ error.message = "Formula nested too deeply") := by
  obtain ⟨written, shallow⟩ := written_of_parse accepted
  have refused : ¬ 1 + tree.textLevels ≤ 64 →
      ∃ error, parse tree.print = .error error ∧
        error.message = "Formula nested too deeply" := fun deep =>
    parse_print_of_not_fits written.printable fun fits => deep fits.1
  refine ⟨⟨fun isRead => ?_, fun within => ?_⟩, refused⟩
  · apply Decidable.byContradiction
    intro deep
    obtain ⟨error, isRefused, _⟩ := refused deep
    rw [isRead] at isRefused
    contradiction
  · have isRead := parse_print_of_fits written.printable
    rw [written.normal_eq] at isRead
    exact isRead ⟨within, shallow⟩

/-- A conditional of three parameters is read back. -/
theorem parse_print_choice :
    let choice : Expression := .conditional (.parameter "a") (.parameter "b") (.parameter "c")
    parse "a ? b : c" = .ok choice ∧ parse choice.print = .ok choice := by
  intro choice
  have found : (parse "a ? b : c").toOption = some choice := by decide +kernel
  have accepted := Except.toOption_eq_some_iff.mp found
  exact ⟨accepted, (parse_print_of_parse _ choice accepted).1.mpr (by decide)⟩

/-- Each conditional is the last branch of the one before it. -/
def chain : Nat → Expression
  | 0 => .parameter "a"
  | count + 1 => .conditional (.parameter "a") (.parameter "a") (chain count)

/-- A chain of 32 conditionals is read, and its printed text is refused. -/
theorem exists_print_refused :
    ∃ tree, parse
        ("a?a:a?a:a?a:a?a:a?a:a?a:a?a:a?a:a?a:a?a:a?a:a?a:a?a:a?a:a?a:a?a:" ++
          "a?a:a?a:a?a:a?a:a?a:a?a:a?a:a?a:a?a:a?a:a?a:a?a:a?a:a?a:a?a:a?a:a") = .ok tree ∧
      ∃ error, parse tree.print = .error error ∧ error.message = "Formula nested too deeply" := by
  have found : (parse ("a?a:a?a:a?a:a?a:a?a:a?a:a?a:a?a:a?a:a?a:a?a:a?a:a?a:a?a:a?a:a?a:" ++
      "a?a:a?a:a?a:a?a:a?a:a?a:a?a:a?a:a?a:a?a:a?a:a?a:a?a:a?a:a?a:a?a:a")).toOption =
        some (chain 32) := by
    decide +kernel
  have accepted := Except.toOption_eq_some_iff.mp found
  have levels : (chain 32).textLevels = 64 := by decide +kernel
  refine ⟨chain 32, accepted, parse_print_of_not_fits (written_of_parse accepted).1.printable ?_⟩
  intro fits
  have within := fits.1
  rw [levels] at within
  exact absurd within (by decide)

end Casework.Expression
