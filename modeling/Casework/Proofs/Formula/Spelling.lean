import Casework.Formula.Grammar
import Casework.Formula.Printing
import Casework.Proofs.Decimal.Plain
import Casework.Proofs.Formula.Scanning

namespace Casework.Expression

open Grammar Token

/-- A negative literal is read as the negation of its magnitude. -/
def normal : Expression → Expression
  | .number value =>
    if value.units < 0 then .negate (.number value.magnitude) else .number value
  | .parameter name => .parameter name
  | .negate operand => .negate operand.normal
  | .binary operator left right => .binary operator left.normal right.normal
  | .conditional condition thenBranch elseBranch =>
    .conditional condition.normal thenBranch.normal elseBranch.normal

/-- This is how deep formulas are nested inside the text of the tree. -/
def textLevels : Expression → Nat
  | .number value => if value.units < 0 then 1 else 0
  | .parameter _ => 0
  | .negate (.negate operand) => 1 + textLevels (.negate operand)
  | .negate operand => textLevels operand
  | .binary _ left right => 1 + max left.textLevels right.textLevels
  | .conditional condition thenBranch elseBranch =>
    1 + max condition.textLevels (max (1 + thenBranch.textLevels) (1 + elseBranch.textLevels))

/-- No literal is the negative zero, and every name is an identifier. -/
def Printable : Expression → Prop
  | .number value => ¬ (value.negative = true ∧ value.isZero = true)
  | .parameter name => IsIdentifier name.toList
  | .negate operand => operand.Printable
  | .binary _ left right => left.Printable ∧ right.Printable
  | .conditional condition thenBranch elseBranch =>
    condition.Printable ∧ thenBranch.Printable ∧ elseBranch.Printable

/-- Only the text of a negation may not stand where an operand stands. -/
def textPhrase : Expression → Phrase
  | .negate _ => .signed
  | _ => .operand

/-- The characters spell a phrase of the given tree and levels wherever they stand. -/
def Spells (phrase : Phrase) (characters : List Char) (tree : Expression) (levels : Nat) : Prop :=
  ∀ position, ∃ derivation : Derivation phrase, derivation.tree? = some tree ∧
    derivation.levels = levels ∧ Scans position characters derivation.tokens

section

variable {characters first second third : List Char}
  {tree left right condition thenBranch elseBranch : Expression}
  {levels leftLevels rightLevels conditionLevels thenLevels elseLevels : Nat}

/-- An operand is spelled without a sign. -/
theorem Spells.signed (spells : Spells .operand characters tree levels) :
    Spells .signed characters tree levels := by
  intro position
  obtain ⟨derivation, hasTree, hasLevels, scans⟩ := spells position
  exact ⟨.unsigned derivation, hasTree, hasLevels, scans⟩

/-- One operand is an operation without operators. -/
theorem Spells.lone (rank : Rank) (spells : Spells rank.item characters tree levels) :
    Spells (.operation rank) characters tree levels := by
  intro position
  obtain ⟨derivation, hasTree, hasLevels, scans⟩ := spells position
  exact ⟨.lone derivation, hasTree, hasLevels, scans⟩

/-- A formula is one level deeper than its sum. -/
theorem Spells.unconditional (spells : Spells (.operation .additive) characters tree levels) :
    Spells .formula characters tree (1 + levels) := by
  intro position
  obtain ⟨derivation, hasTree, hasLevels, scans⟩ := spells position
  refine ⟨.unconditional derivation, hasTree, ?_, scans⟩
  rw [← hasLevels]
  exact Nat.add_comm _ _

/-- A signed phrase is an operation of either rank. -/
theorem Spells.operation (rank : Rank) (spells : Spells .signed characters tree levels) :
    Spells (.operation rank) characters tree levels := by
  have product := Spells.lone .multiplicative spells
  cases rank with
  | multiplicative => exact product
  | additive => exact Spells.lone .additive product

/-- A formula takes one level. -/
theorem Spells.formula (spells : Spells .signed characters tree levels) :
    Spells .formula characters tree (1 + levels) :=
  (spells.operation .additive).unconditional

/-- A minus sign in front spells the negation. -/
theorem Spells.negate (spells : Spells .operand characters tree levels) :
    Spells .signed ('-' :: characters) (.negate tree) levels := by
  intro position
  obtain ⟨derivation, hasTree, hasLevels, scans⟩ := spells (position + 1)
  let minus : Token := ⟨.minus, String.singleton '-', position⟩
  refine ⟨.negated minus rfl derivation, ?_, hasLevels, scans.symbol rfl⟩
  simp [Derivation.tree?, hasTree]

/-- Parentheses stand around a formula. -/
theorem Spells.parentheses (spells : Spells .formula characters tree levels) :
    Spells .operand ('(' :: (characters ++ [')'])) tree levels := by
  intro position
  obtain ⟨derivation, hasTree, hasLevels, scans⟩ := spells (position + 1)
  let opening : Token := ⟨.leftParen, String.singleton '(', position⟩
  let closing : Token := ⟨.rightParen, String.singleton ')', position + 1 + characters.length⟩
  have closes : Scans (position + 1 + characters.length) [')'] [closing] :=
    (scans_nil _).symbol rfl
  exact ⟨.parentheses opening closing rfl rfl derivation, hasTree, hasLevels,
    (scans.append closes (by decide)).symbol rfl⟩

/-- An operator stands between two spaces. -/
theorem Spells.joined {rank : Rank} {operator : Operator} (ranked : operator ∈ rank.operators)
    (spellsLeft : Spells (.operation rank) first left leftLevels)
    (spellsRight : Spells rank.item second right rightLevels) :
    Spells (.operation rank) (first ++ ' ' :: operator.symbol :: ' ' :: second)
      (.binary operator left right) (max leftLevels rightLevels) := by
  intro position
  obtain ⟨kind, isSymbol⟩ : ∃ kind : Token.Kind, kind.symbol? = some operator.symbol := by
    cases operator
    · exact ⟨.plus, rfl⟩
    · exact ⟨.minus, rfl⟩
    · exact ⟨.star, rfl⟩
    · exact ⟨.slash, rfl⟩
  obtain ⟨leftDerivation, leftTree, leftCount, scansLeft⟩ := spellsLeft position
  obtain ⟨rightDerivation, rightTree, rightCount, scansRight⟩ :=
    spellsRight (position + first.length + 1 + 1 + 1)
  have scans := scansLeft.append (scansRight.space.symbol isSymbol).space (by decide)
  let symbol : Token := ⟨kind, String.singleton operator.symbol, position + first.length + 1⟩
  have stands : StandsFor symbol operator := isSymbol
  refine ⟨.joined leftDerivation symbol operator ranked stands rightDerivation, ?_, ?_, scans⟩
  · simp [Derivation.tree?, leftTree, rightTree]
  · rw [← leftCount, ← rightCount]
    rfl

/-- An operation of signed phrases is a sum or a product. -/
theorem Spells.binary (operator : Operator) (spellsLeft : Spells .signed first left leftLevels)
    (spellsRight : Spells .signed second right rightLevels) :
    Spells (.operation .additive) (first ++ ' ' :: operator.symbol :: ' ' :: second)
      (.binary operator left right) (max leftLevels rightLevels) := by
  by_cases ranked : operator ∈ Rank.operators .additive
  · exact (spellsLeft.operation .additive).joined ranked (spellsRight.operation .multiplicative)
  · have multiplicative : operator ∈ Rank.operators .multiplicative := by
      revert ranked
      cases operator <;> decide
    have product := (spellsLeft.operation .multiplicative).joined multiplicative spellsRight
    exact Spells.lone .additive product

/-- The branches of a conditional are formulas. -/
theorem Spells.conditional
    (spellsCondition : Spells (.operation .additive) first condition conditionLevels)
    (spellsThen : Spells .formula second thenBranch thenLevels)
    (spellsElse : Spells .formula third elseBranch elseLevels) :
    Spells .formula
      (first ++ ' ' :: '?' :: ' ' :: (second ++ ' ' :: ':' :: ' ' :: third))
      (.conditional condition thenBranch elseBranch)
      (1 + max conditionLevels (max thenLevels elseLevels)) := by
  intro position
  let branch := position + first.length + 1 + 1 + 1
  obtain ⟨conditionDerivation, conditionTree, conditionCount, scansCondition⟩ :=
    spellsCondition position
  obtain ⟨thenDerivation, thenTree, thenCount, scansThen⟩ := spellsThen branch
  obtain ⟨elseDerivation, elseTree, elseCount, scansElse⟩ :=
    spellsElse (branch + second.length + 1 + 1 + 1)
  let question : Token := ⟨.question, String.singleton '?', position + first.length + 1⟩
  let colon : Token := ⟨.colon, String.singleton ':', branch + second.length + 1⟩
  have asks : question.kind.symbol? = some '?' := rfl
  have separates : colon.kind.symbol? = some ':' := rfl
  have scansBranches := scansThen.append (scansElse.space.symbol separates).space (by decide)
  have scans := scansCondition.append (scansBranches.space.symbol asks).space (by decide)
  refine ⟨.conditional conditionDerivation question colon rfl rfl thenDerivation elseDerivation,
    ?_, ?_, scans⟩
  · simp [Derivation.tree?, conditionTree, thenTree, elseTree]
  · rw [← conditionCount, ← thenCount, ← elseCount]
    exact Nat.add_comm _ _

end

/-- The plain digits of a number spell its magnitude. -/
theorem spells_plain (value : Binary64.Finite) :
    Spells .operand (Decimal.plain value) (.number value.magnitude) 0 := by
  intro position
  obtain ⟨decimal, numeral, finite⟩ := Decimal.exists_numeral_plain value
  have denotes : literal? (String.ofList (Decimal.plain value)) = some value.magnitude := by
    have isNumeral : Decimal.Numeral (String.ofList (Decimal.plain value)).toList decimal := by
      rwa [String.toList_ofList]
    rw [literal_of_numeral isNumeral, finite]
    rfl
  let token : Token := ⟨.number, String.ofList (Decimal.plain value), position⟩
  refine ⟨.number token rfl, ?_, rfl, scans_numeral position numeral⟩
  simp [Derivation.tree?, token, denotes]

/-- An identifier spells a parameter. -/
theorem spells_parameter {name : String} (isIdentifier : IsIdentifier name.toList) :
    Spells .operand name.toList (.parameter name) 0 := by
  intro position
  let token : Token := ⟨.identifier, String.ofList name.toList, position⟩
  refine ⟨.parameter token rfl, ?_, rfl, scans_identifier position isIdentifier⟩
  simp [Derivation.tree?, token]

/-- The text of every tree may stand where a signed operand stands. -/
theorem textPhrase_signed {characters : List Char} {tree result : Expression} {levels : Nat}
    (spells : Spells tree.textPhrase characters result levels) :
    Spells .signed characters result levels := by
  cases tree with
  | negate operand => exact spells
  | number value => exact spells.signed
  | parameter name => exact spells.signed
  | binary operator left right => exact spells.signed
  | conditional condition thenBranch elseBranch => exact spells.signed

/-- The text of a literal spells its normal form. -/
theorem spells_literal {value : Binary64.Finite}
    (positive : ¬ (value.negative = true ∧ value.isZero = true)) :
    Spells .operand (literalText value) (normal (.number value)) (textLevels (.number value)) := by
  unfold literalText normal textLevels
  by_cases below : value.units < 0
  · rw [if_pos below, if_pos below, if_pos below]
    exact (spells_plain value).negate.formula.parentheses
  · have same : value.magnitude = value := by
      refine Binary64.Finite.eq_iff.mpr ⟨?_, rfl⟩
      cases negative : value.negative with
      | false => rfl
      | true =>
          have units : value.units = -(value.count : Int) := by
            simp [Binary64.Finite.units, negative]
          have nonzero : value.count ≠ 0 := fun zero =>
            positive ⟨negative, by simp [Binary64.Finite.isZero, zero]⟩
          omega
    have spells := spells_plain value
    rw [same] at spells
    rw [if_neg below, if_neg below, if_neg below]
    exact spells

/-- The text of a printable tree spells its normal form. -/
theorem spells_characters {tree : Expression} (printable : tree.Printable) :
    Spells tree.textPhrase tree.characters tree.normal tree.textLevels := by
  induction tree using characters.induct with
  | case1 value => exact spells_literal printable
  | case2 name => exact spells_parameter printable
  | case3 operand inductionHypothesis =>
      have spells : Spells .signed (characters operand.negate) operand.negate.normal
          operand.negate.textLevels := inductionHypothesis printable
      exact spells.formula.parentheses.negate
  | case4 operand single inductionHypothesis =>
      have isOperand : operand.textPhrase = .operand := by
        cases operand with
        | negate inner => exact absurd rfl (single inner)
        | number => rfl
        | parameter => rfl
        | binary => rfl
        | conditional => rfl
      have spells := inductionHypothesis printable
      rw [isOperand] at spells
      rw [characters.eq_4 operand single, textLevels.eq_4 operand single]
      exact spells.negate
  | case5 operator left right leftHypothesis rightHypothesis =>
      have spellsLeft := textPhrase_signed (leftHypothesis printable.1)
      have spellsRight := textPhrase_signed (rightHypothesis printable.2)
      have spells := (Spells.binary operator spellsLeft spellsRight).unconditional.parentheses
      simpa [characters, textLevels, normal, textPhrase] using spells
  | case6 condition thenBranch elseBranch first second third =>
      have spellsCondition := textPhrase_signed (first printable.1)
      have spellsThen := (textPhrase_signed (second printable.2.1)).formula
      have spellsElse := (textPhrase_signed (third printable.2.2)).formula
      have spells :=
        ((spellsCondition.operation .additive).conditional spellsThen spellsElse).parentheses
      simpa [characters, textLevels, normal, textPhrase] using spells

end Casework.Expression
