import Casework.Proofs.Formula.RoundTrip

namespace Casework.Expression

open Binary64

/-- A number that is not below zero is its own magnitude. Of the two zeros only one is. -/
theorem magnitude_of_units_nonneg {value : Finite} (notBelow : 0 ≤ value.units) :
    value.magnitude = if value.isZero then .zero else value := by
  split
  · next isZero =>
      exact Finite.eq_iff.mpr ⟨rfl, beq_iff_eq.mp isZero⟩
  · next nonzero =>
      refine Finite.eq_iff.mpr ⟨?_, rfl⟩
      have positive : value.count ≠ 0 := fun isZero => nonzero (beq_iff_eq.mpr isZero)
      cases isNegative : value.negative with
      | false => rfl
      | true =>
          rw [Finite.units, isNegative, if_pos rfl] at notBelow
          omega

/-- The text of a number that is not below zero has no parentheses. -/
theorem print_of_units_nonneg {value : Finite} (notBelow : 0 ≤ value.units) :
    print (.number value) = String.ofList (Decimal.plain value) := by
  rw [print, characters, literalText, if_neg (Int.not_lt.mpr notBelow)]

/-- The token of a numeral denotes its decimal. -/
theorem readNumber_of_numeral {token : Token} {decimal : Decimal} {value : Finite}
    (numeral : Decimal.Numeral token.text.toList decimal)
    (finite : decimal.toBinary64 false = .finite value) : readNumber token = .ok value := by
  rw [readNumber, Decimal.read_of_numeral numeral, finite]

/-- A text that is one numeral is a formula. -/
theorem parse_of_numeral {text : String} {decimal : Decimal} {value : Finite}
    (numeral : Decimal.Numeral text.toList decimal)
    (finite : decimal.toBinary64 false = .finite value) : parse text = .ok (.number value) := by
  let token : Token := ⟨.number, text, 0⟩
  let derivation : Grammar.Derivation .formula :=
    .unconditional (.lone (.lone (.unsigned (.number token rfl))))
  have scans : Token.Scans 0 text.toList derivation.tokens := by
    have scans := Token.scans_numeral 0 numeral
    rwa [String.ofList_toList] at scans
  obtain ⟨finish, isRead⟩ := parse_of_scans scans
  have hasTree : derivation.tree? = some (.number value) := by
    have denotes := Grammar.literal_of_numeral numeral
    rw [finite] at denotes
    exact congrArg (Option.map Expression.number) denotes
  rw [isRead]
  exact readAll_eq_ok_iff.mpr
    ⟨derivation, rfl, hasTree, show 1 ≤ 64 by decide, depth_number_le value⟩

/-- A finite number that is not below zero is written as digits with an optional fraction. This text
is scanned as one number token and the end of the input, and the token is read as the number itself,
where both zeros are read as the zero without a sign. -/
theorem readNumber_plain (value : Finite) (notBelow : 0 ≤ value.units) :
    let text := print (.number value)
    let token : Token := ⟨.number, text, 0⟩
    let same := if value.isZero then Finite.zero else value
    text = String.ofList (Decimal.plain value) ∧
    (∃ decimal, Decimal.Numeral text.toList decimal) ∧
    Token.scan text = .ok [token, ⟨.endOfInput, "", text.length⟩] ∧
    readNumber token = .ok same ∧
    parse text = .ok (.number same) := by
  intro text token same
  have written : text = String.ofList (Decimal.plain value) := print_of_units_nonneg notBelow
  have isSame : value.magnitude = same := magnitude_of_units_nonneg notBelow
  obtain ⟨decimal, numeral, finite⟩ := Decimal.exists_numeral_plain value
  rw [isSame] at finite
  replace numeral : Decimal.Numeral text.toList decimal := by
    rw [written, String.toList_ofList]
    exact numeral
  have scans := Token.scans_numeral 0 numeral
  rw [String.ofList_toList] at scans
  exact ⟨written, ⟨decimal, numeral⟩, scans.scan, readNumber_of_numeral numeral finite,
    parse_of_numeral numeral finite⟩

/-- The least number above zero has its only digit at the place 324 after the point. -/
theorem readNumber_plain_least :
    let least : Finite := ⟨false, 1, by decide +kernel⟩
    let text := String.ofList ('0' :: '.' :: (List.replicate 323 '0' ++ ['5']))
    0 ≤ least.units ∧ print (.number least) = text ∧
      Token.scan text = .ok [⟨.number, text, 0⟩, ⟨.endOfInput, "", text.length⟩] ∧
      readNumber ⟨.number, text, 0⟩ = .ok least ∧ parse text = .ok (.number least) := by
  intro least text
  have notBelow : 0 ≤ least.units := by decide
  have written : print (.number least) = text := by decide +kernel
  obtain ⟨-, -, scanned, isRead, parsed⟩ := readNumber_plain least notBelow
  rw [written] at scanned isRead parsed
  exact ⟨notBelow, written, scanned, isRead, parsed⟩

end Casework.Expression
