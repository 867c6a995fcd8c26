import Casework.Formula.Grammar

namespace Casework

namespace Text

/-- A western digit is the digit of a number below ten. -/
theorem exists_digitChar {character : Char} (isDigit : character.isDigit = true) :
    ∃ value, value < 10 ∧ character = Nat.digitChar value := by
  have range : 48 ≤ character.toNat ∧ character.toNat ≤ 57 := Char.isDigit_iff_toNat.mp isDigit
  have below : character.toNat - 48 < 10 := by omega
  refine ⟨character.toNat - 48, below, ?_⟩
  apply Char.toNat_inj.mp
  rw [Nat.toNat_digitChar_of_lt_ten below]
  omega

theorem trimBy_of_forall_not {test : Char → Bool} {characters : List Char}
    (kept : ∀ character ∈ characters, test character = false) :
    trimBy test characters = characters := by
  have stays : ∀ others : List Char, (∀ character ∈ others, test character = false) →
      others.dropWhile test = others := by
    intro others kept
    cases others with
    | nil => rfl
    | cons first rest => simp [kept first (by simp)]
  unfold trimBy
  rw [stays characters kept, stays _ fun character isMember =>
    kept character (List.mem_reverse.mp isMember), List.reverse_reverse]

end Text

namespace Decimal

/-- These are one or more digits. -/
def IsDigits (characters : List Char) : Prop :=
  characters ≠ [] ∧ ∀ character ∈ characters, character.isDigit = true

/-- A numeral is one or more digits, and then perhaps a point and one or more digits. It stands
for a decimal. -/
inductive Numeral : List Char → Decimal → Prop where
  | whole {digits : List Char} : IsDigits digits → Numeral digits ⟨digitsValue digits, 0⟩
  | fractional {digits fraction : List Char} : IsDigits digits → IsDigits fraction →
      Numeral (digits ++ '.' :: fraction)
        ⟨digitsValue (digits ++ fraction), -(fraction.length : Int)⟩

/-- These characters occur in numerals. -/
def InNumeral (character : Char) : Prop := character.isDigit = true ∨ character = '.'

/-- A numeral has digits and a point at most. -/
theorem Numeral.inNumeral {characters : List Char} {value : Decimal}
    (numeral : Numeral characters value) : ∀ character ∈ characters, InNumeral character := by
  intro character isMember
  cases numeral with
  | whole areDigits => exact .inl (areDigits.2 character isMember)
  | fractional areDigits areFraction =>
      rcases List.mem_append.mp isMember with inDigits | inRest
      · exact .inl (areDigits.2 character inDigits)
      · rcases List.mem_cons.mp inRest with isPoint | inFraction
        · exact .inr isPoint
        · exact .inl (areFraction.2 character inFraction)

/-- A numeral begins with a digit. -/
theorem Numeral.exists_head {characters : List Char} {value : Decimal}
    (numeral : Numeral characters value) :
    ∃ first rest, characters = first :: rest ∧ first.isDigit = true := by
  have begins : ∀ digits : List Char, IsDigits digits →
      ∃ first rest, digits = first :: rest ∧ first.isDigit = true := by
    intro digits areDigits
    cases digits with
    | nil => exact absurd rfl areDigits.1
    | cons first rest => exact ⟨first, rest, rfl, areDigits.2 first (by simp)⟩
  cases numeral with
  | whole areDigits => exact begins _ areDigits
  | fractional areDigits areFraction =>
      obtain ⟨first, rest, equal, isDigit⟩ := begins _ areDigits
      exact ⟨first, rest ++ '.' :: _, by rw [equal]; rfl, isDigit⟩

/-- A property of the ten digits and of the point holds of every character of a numeral. -/
theorem InNumeral.forall (test : Char → Prop) {character : Char} (inNumeral : InNumeral character)
    (digits : ∀ value < 10, test (Nat.digitChar value)) (point : test '.') : test character := by
  rcases inNumeral with isDigit | isPoint
  · obtain ⟨value, below, equal⟩ := Text.exists_digitChar isDigit
    rw [equal]
    exact digits value below
  · rwa [isPoint]

theorem isWhiteSpace_of_inNumeral {character : Char} (inNumeral : InNumeral character) :
    Text.isWhiteSpace character = false :=
  inNumeral.forall (fun character => Text.isWhiteSpace character = false) (by decide +kernel)
    (by decide +kernel)

theorem westernDigit_of_inNumeral {character : Char} (inNumeral : InNumeral character) :
    westernDigit character = character :=
  inNumeral.forall (fun character => westernDigit character = character) (by decide +kernel)
    (by decide +kernel)

theorem ne_underscore_of_inNumeral {character : Char} (inNumeral : InNumeral character) :
    character ≠ '_' :=
  inNumeral.forall (fun character => character ≠ '_') (by decide +kernel) (by decide +kernel)

/-- Without underscores nothing has to be grouped. -/
theorem groupsDigits_of_forall_ne {characters : List Char}
    (without : ∀ character ∈ characters, character ≠ '_') : groupsDigits characters = true := by
  induction characters using groupsDigits.induct with
  | case1 first second rest inductionHypothesis => exact absurd rfl (without '_' (by simp))
  | case2 => exact absurd rfl (without '_' (by simp))
  | case3 => exact absurd rfl (without '_' (by simp))
  | case4 first rest _ _ _ inductionHypothesis =>
      rw [groupsDigits]
      · exact inductionHypothesis fun character isMember =>
          without character (List.mem_cons_of_mem _ isMember)
      all_goals assumption
  | case5 => rfl

/-- Nothing has to be removed from a numeral or replaced in it before it is read. -/
theorem read_of_inNumeral {text : String}
    (inNumeral : ∀ character ∈ text.toList, InNumeral character) :
    read? text = readNumeral? text.toList := by
  have untrimmed : Text.trimBy Text.isWhiteSpace text.toList = text.toList :=
    Text.trimBy_of_forall_not fun character isMember =>
      isWhiteSpace_of_inNumeral (inNumeral character isMember)
  have western : text.toList.map westernDigit = text.toList := by
    rw [List.map_congr_left fun character isMember =>
      westernDigit_of_inNumeral (inNumeral character isMember)]
    exact List.map_id _
  have without : ∀ character ∈ text.toList, character ≠ '_' := fun character isMember =>
    ne_underscore_of_inNumeral (inNumeral character isMember)
  have unfiltered : text.toList.filter (· ≠ '_') = text.toList := by
    simpa using without
  unfold read?
  dsimp only
  rw [untrimmed, western, groupsDigits_of_forall_ne without, unfiltered]
  rfl

/-- A text that begins with a digit has no sign and is no name. -/
theorem readNumeral_of_digit {first : Char} (rest : List Char) (isDigit : first.isDigit = true) :
    readNumeral? (first :: rest) = (readUnsigned? (first :: rest)).map (toBinary64 false) := by
  have unsigned : splitSign (first :: rest) = (false, first :: rest) := by
    unfold splitSign
    split
    · rename_i equal
      cases equal
      contradiction
    · rename_i equal
      cases equal
      contradiction
    · rfl
  have unnamed : first.toLower ≠ 'i' ∧ first.toLower ≠ 'n' :=
    InNumeral.forall (fun first => first.toLower ≠ 'i' ∧ first.toLower ≠ 'n') (.inl isDigit)
      (by decide +kernel) (by decide +kernel)
  unfold readNumeral?
  rw [unsigned]
  simp [unnamed.1, unnamed.2]

/-- The digits behind the point lower the exponent. -/
theorem readUnsigned_of_fraction {digits fraction : List Char} (areDigits : IsDigits digits)
    (areFraction : IsDigits fraction) :
    readUnsigned? (digits ++ '.' :: fraction) =
      some ⟨digitsValue (digits ++ fraction), -(fraction.length : Int)⟩ := by
  have whole : (digits ++ '.' :: fraction).takeWhile Char.isDigit = digits := by
    rw [List.takeWhile_append_of_pos areDigits.2]
    simp
  have rest : (digits ++ '.' :: fraction).dropWhile Char.isDigit = '.' :: fraction := by
    rw [List.dropWhile_append_of_pos areDigits.2]
    simp
  have taken : fraction.takeWhile Char.isDigit = fraction := by
    simpa using @List.takeWhile_append_of_pos Char Char.isDigit fraction [] areFraction.2
  have dropped : fraction.dropWhile Char.isDigit = [] := by
    simpa using @List.dropWhile_append_of_pos Char Char.isDigit fraction [] areFraction.2
  simp [readUnsigned?, whole, rest, splitFraction, taken, dropped, areDigits.1, readExponent?]

/-- A numeral is read as the binary64 number that is nearest to its decimal. -/
theorem read_of_numeral {text : String} {value : Decimal} (numeral : Numeral text.toList value) :
    read? text = some (value.toBinary64 false) := by
  rw [read_of_inNumeral numeral.inNumeral]
  obtain ⟨first, rest, begins, isDigit⟩ := numeral.exists_head
  have unsigned : readUnsigned? text.toList = some value := by
    generalize text.toList = characters at numeral
    cases numeral with
    | whole areDigits => exact readUnsigned_of_digits areDigits.1 areDigits.2
    | fractional areDigits areFraction => exact readUnsigned_of_fraction areDigits areFraction
  rw [begins] at unsigned ⊢
  rw [readNumeral_of_digit rest isDigit, unsigned]
  rfl

end Decimal

/-- A numeral denotes a finite number without a sign, if it denotes any. -/
theorem Grammar.literal_of_numeral {text : String} {decimal : Decimal}
    (numeral : Decimal.Numeral text.toList decimal) :
    literal? text = (decimal.toBinary64 false).finite? := by
  rw [literal?, Decimal.read_of_numeral numeral]
  rfl

end Casework
