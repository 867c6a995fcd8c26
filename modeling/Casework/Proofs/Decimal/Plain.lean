import Casework.Decimal.Layout
import Casework.Proofs.Decimal.Numeral

namespace Casework.Decimal

open Binary64

theorem isDigits_toDigits (number : Nat) : IsDigits (Nat.toDigits 10 number) :=
  ⟨Nat.toDigits_ne_nil, fun _ isMember =>
    Nat.isDigit_of_mem_toDigits (by decide) (by decide) isMember⟩

theorem IsDigits.append {first second : List Char} (areFirst : IsDigits first)
    (areSecond : ∀ character ∈ second, character.isDigit = true) : IsDigits (first ++ second) := by
  refine ⟨by simp [areFirst.1], fun character isMember => ?_⟩
  rcases List.mem_append.mp isMember with inFirst | inSecond
  · exact areFirst.2 character inFirst
  · exact areSecond character inSecond

theorem isDigit_of_mem_zeros {count : Nat} {character : Char}
    (isMember : character ∈ List.replicate count '0') : character.isDigit = true := by
  rw [List.eq_of_mem_replicate isMember]
  decide

/-- The digits of a number have its value. -/
theorem digitsValue_toDigits (number : Nat) : digitsValue (Nat.toDigits 10 number) = number :=
  Nat.ofDigitChars_ten_toDigits

/-- Zeros after the digits multiply their value by a power of ten. -/
theorem digitsValue_append_zeros (number zeros : Nat) :
    digitsValue (Nat.toDigits 10 number ++ List.replicate zeros '0') =
      number * Nat.pow 10 zeros := by
  have value : Nat.ofDigitChars 10 (Nat.toDigits 10 number) 0 = number :=
    Nat.ofDigitChars_ten_toDigits
  unfold digitsValue
  rw [Nat.ofDigitChars_append, value, Nat.ofDigitChars_replicate_zero]
  exact Nat.mul_comm _ _

/-- Zeros before the digits do not change their value. -/
theorem digitsValue_zeros_append (number zeros : Nat) :
    digitsValue (List.replicate zeros '0' ++ Nat.toDigits 10 number) = number := by
  unfold digitsValue
  rw [Nat.ofDigitChars_append, Nat.ofDigitChars_replicate_zero, Nat.mul_zero]
  exact Nat.ofDigitChars_ten_toDigits

/-- Digits that are split before the last places form a numeral with a fraction. -/
theorem numeral_split {digits : List Char} {places : Nat} (areDigits : IsDigits digits)
    (positive : 0 < places) (longer : places < digits.length) :
    Numeral (digits.take (digits.length - places) ++ '.' :: digits.drop (digits.length - places))
      ⟨digitsValue digits, -(places : Int)⟩ := by
  have whole : IsDigits (digits.take (digits.length - places)) := by
    refine ⟨?_, fun character isMember => areDigits.2 character (List.mem_of_mem_take isMember)⟩
    apply List.ne_nil_of_length_pos
    rw [List.length_take]
    omega
  have length : (digits.drop (digits.length - places)).length = places := by
    rw [List.length_drop]
    omega
  have fraction : IsDigits (digits.drop (digits.length - places)) := by
    refine ⟨?_, fun character isMember => areDigits.2 character (List.mem_of_mem_drop isMember)⟩
    apply List.ne_nil_of_length_pos
    rw [length]
    exact positive
  have numeral := Numeral.fractional whole fraction
  rwa [List.take_append_drop, length] at numeral

theorem toBinary64_zero (exponent : Int) : toBinary64 false ⟨0, exponent⟩ = .finite .zero :=
  if_pos rfl

/-- Zeros at the end multiply the coefficient. -/
theorem toBinary64_ofNat {coefficient zeros : Nat} (nonzero : coefficient ≠ 0)
    (small : zeros < 400) :
    toBinary64 false ⟨coefficient, zeros⟩ = ofRatio false (coefficient * Nat.pow 10 zeros) 1 := by
  unfold toBinary64
  rw [if_neg nonzero]
  exact if_neg (Nat.not_le_of_lt small)

theorem toBinary64_natural {number : Nat} (nonzero : number ≠ 0) :
    toBinary64 false ⟨number, 0⟩ = ofRatio false number 1 := by
  have power : Nat.pow 10 0 = 1 := rfl
  have same := toBinary64_ofNat nonzero (show 0 < 400 by decide)
  rwa [power, Nat.mul_one] at same

/-- Places behind the point divide the coefficient. -/
theorem toBinary64_negSucc {coefficient before : Nat} (nonzero : coefficient ≠ 0)
    (large : ¬ coefficient.log2 + 1100 ≤ 3 * (before + 1)) :
    toBinary64 false ⟨coefficient, .negSucc before⟩ =
      ofRatio false coefficient (Nat.pow 10 (before + 1)) := by
  unfold toBinary64
  rw [if_neg nonzero]
  exact if_neg large

/-- A decimal has the sign that is asked for. -/
theorem isNegative_toBinary64 (negative : Bool) (value : Decimal) :
    (value.toBinary64 negative).isNegative = negative := by
  have ofRatio (numerator denominator : Nat) :
      (ofRatio negative numerator denominator).isNegative = negative := by
    unfold Binary64.ofRatio ofUnits
    dsimp only
    split <;> rfl
  unfold toBinary64
  split
  · rfl
  · split
    · split
      · rfl
      · exact ofRatio _ _
    · dsimp only
      split
      · rfl
      · exact ofRatio _ _

/-- A power of ten may stand in the coefficient or in the exponent. -/
theorem toBinary64_mul_pow {coefficient zeros : Nat} {value : Finite}
    (finite : toBinary64 false ⟨coefficient, zeros⟩ = .finite value) :
    toBinary64 false ⟨coefficient * Nat.pow 10 zeros, 0⟩ = .finite value := by
  by_cases zero : coefficient = 0
  · rw [← finite, zero, Nat.zero_mul, toBinary64_zero, toBinary64_zero]
  · have nonzero : coefficient * Nat.pow 10 zeros ≠ 0 :=
      Nat.mul_ne_zero zero (Nat.ne_of_gt (Nat.pow_pos (by decide)))
    have small : zeros < 400 := by
      refine Nat.lt_of_not_le fun large => ?_
      have infinite : toBinary64 false ⟨coefficient, zeros⟩ = .infinite false := by
        unfold toBinary64
        rw [if_neg zero]
        exact if_pos large
      rw [infinite] at finite
      contradiction
    rw [← finite, toBinary64_natural nonzero, toBinary64_ofNat zero small]

/-- The positional text of a decimal is a numeral of the same number. -/
theorem exists_numeral_positional {decimal : Decimal} {value : Finite}
    (finite : decimal.toBinary64 false = .finite value) :
    ∃ other, Numeral decimal.positional other ∧ other.toBinary64 false = .finite value := by
  obtain ⟨coefficient, exponent⟩ := decimal
  cases exponent with
  | ofNat zeros =>
      have areDigits : IsDigits (Nat.toDigits 10 coefficient ++ List.replicate zeros '0') :=
        (isDigits_toDigits coefficient).append fun character isMember =>
          isDigit_of_mem_zeros isMember
      have numeral := Numeral.whole areDigits
      rw [digitsValue_append_zeros] at numeral
      exact ⟨_, numeral, toBinary64_mul_pow finite⟩
  | negSucc before =>
      let digits := Nat.toDigits 10 coefficient
      let padded := List.replicate (before + 1 + 1 - digits.length) '0' ++ digits
      have areDigits : IsDigits padded := by
        refine ⟨by simp [padded, digits, Nat.toDigits_ne_nil], fun character isMember => ?_⟩
        rcases List.mem_append.mp isMember with isZero | isDigit
        · exact isDigit_of_mem_zeros isZero
        · exact (isDigits_toDigits coefficient).2 character isDigit
      have longer : before + 1 < padded.length := by
        simp only [padded, List.length_append, List.length_replicate]
        omega
      have numeral := numeral_split areDigits (Nat.succ_pos before) longer
      rw [digitsValue_zeros_append] at numeral
      exact ⟨⟨coefficient, .negSucc before⟩, numeral, finite⟩

/-- The coefficient of the exact decimal is above the bound under which decimals are zero. -/
theorem log2_exact {count : Nat} (nonzero : count * Nat.pow 5 1074 ≠ 0) :
    ¬ (count * Nat.pow 5 1074).log2 + 1100 ≤ 3 * (1073 + 1) := by
  have positive : 0 < count := Nat.pos_of_ne_zero (Nat.ne_zero_of_mul_ne_zero_left nonzero)
  have least : (Nat.pow 5 1074).log2 ≤ (count * Nat.pow 5 1074).log2 := by
    rw [Nat.le_log2 nonzero]
    refine Nat.le_trans (Nat.log2_self_le (by decide +kernel)) ?_
    exact Nat.le_mul_of_pos_left _ positive
  have known : 2122 < (Nat.pow 5 1074).log2 := by decide +kernel
  generalize (Nat.pow 5 1074).log2 = exponent at least known
  generalize (count * Nat.pow 5 1074).log2 = found at least ⊢
  omega

/-- The exact decimal of a number that is not zero reads back. -/
theorem toBinary64_exact {value : Finite} (nonzero : value.isZero = false) :
    (exact value).toBinary64 false = .finite value.magnitude := by
  have coefficient : value.count * Nat.pow 5 1074 ≠ 0 :=
    Nat.mul_ne_zero (by simpa [Finite.isZero] using nonzero) (by decide +kernel)
  have powers : Nat.pow 5 1074 * unitsPerOne = Nat.pow 10 (1073 + 1) := by decide +kernel
  change toBinary64 false ⟨_, .negSucc 1073⟩ = _
  rw [toBinary64_negSucc coefficient (log2_exact coefficient)]
  unfold ofRatio
  rw [Nat.mul_assoc, powers]
  exact ofUnits_mul value.magnitude (by decide +kernel)

/-- The decimal that is shortest reads back. -/
theorem toBinary64_shortest {value : Finite} (nonzero : value.isZero = false) :
    (shortest value).toBinary64 false = .finite value.magnitude := by
  rcases readsBack_shortest nonzero with readsBack | isExact
  · exact beq_iff_eq.mp readsBack
  · rw [isExact]
    exact toBinary64_exact nonzero

/-- A whole magnitude is the number of its digits. -/
theorem toBinary64_whole {value : Finite} {whole : Nat} (isWhole : value.whole? = some whole) :
    toBinary64 false ⟨whole, 0⟩ = .finite value.magnitude := by
  have units : value.count = whole * unitsPerOne := by
    unfold Finite.whole? at isWhole
    split at isWhole
    · rename_i divides
      cases isWhole
      exact (Nat.div_mul_cancel (Nat.dvd_of_mod_eq_zero divides)).symm
    · contradiction
  by_cases zero : whole = 0
  · rw [zero, Nat.zero_mul] at units
    rw [zero, toBinary64_zero]
    exact congrArg Binary64.finite (Finite.eq_iff.mpr ⟨rfl, units.symm⟩)
  · rw [toBinary64_natural zero]
    unfold ofRatio
    rw [← units, ← Nat.mul_one value.count]
    exact ofUnits_mul value.magnitude Nat.one_pos

/-- The plain text of a finite number is a numeral of its magnitude. -/
theorem exists_numeral_plain (value : Finite) :
    ∃ decimal, Numeral (plain value) decimal ∧
      decimal.toBinary64 false = .finite value.magnitude := by
  unfold plain
  cases isWhole : value.whole? with
  | some whole =>
      refine ⟨_, .whole (isDigits_toDigits whole), ?_⟩
      rw [digitsValue_toDigits]
      exact toBinary64_whole isWhole
  | none =>
      have nonzero : value.isZero = false := by
        cases isZero : value.isZero with
        | false => rfl
        | true =>
            have none : value.count = 0 := by simpa [Finite.isZero] using isZero
            simp [Finite.whole?, none] at isWhole
      exact exists_numeral_positional (toBinary64_shortest nonzero)

end Casework.Decimal
