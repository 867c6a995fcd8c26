import Casework.Proofs.Binary64.Finiteness
import Casework.Proofs.Stock.Loading
import Mathlib.Logic.Relator

namespace Casework

open Binary64

namespace Stock

variable {value entry : Toml.Value} {number waste : Binary64} {sheet : Sheet} {error : LoadError}

/-- A search finds exactly what is given, and an integer beyond the finite numbers stops it. -/
structure Answers {Found : Type} (outcome : Except LoadError (Option Found))
    (gives : Found → Prop) (large : Prop) : Prop where
  eq_some_iff : ∀ found, outcome = .ok (some found) ↔ gives found
  eq_error_iff : ∀ error, outcome = .error error ↔ large ∧ error = .largeInteger

namespace Answers

variable {Found : Type} {outcome : Except LoadError (Option Found)} {gives : Found → Prop}
  {large : Prop} {first second : Found}

/-- At most one thing is given. -/
theorem unique (answers : Answers outcome gives large) (isFirst : gives first)
    (isSecond : gives second) : first = second := by
  rw [← answers.eq_some_iff] at isFirst isSecond
  exact Option.some.inj (Except.ok.inj (isFirst.symm.trans isSecond))

/-- A search that ends has met no integer beyond the finite numbers. -/
theorem not_large_of_ok (answers : Answers outcome gives large) {found : Option Found}
    (isOk : outcome = .ok found) : ¬ large := by
  intro isLarge
  rw [(answers.eq_error_iff _).mpr ⟨isLarge, rfl⟩] at isOk
  contradiction

/-- A search that finds something has met no integer beyond the finite numbers. -/
theorem not_large (answers : Answers outcome gives large) (given : gives first) : ¬ large :=
  answers.not_large_of_ok ((answers.eq_some_iff first).mpr given)

end Answers

/-- The value stands for the number. An integer stands for the nearest finite number, a flag for one
or zero, and a text for the number that it writes. -/
inductive StandsFor : Toml.Value → Binary64 → Prop where
  | integer {whole : Int} {nearest : Finite} (isNearest : ofInt whole = .finite nearest) :
      StandsFor (.integer whole) (.finite nearest)
  | real (number : Binary64) : StandsFor (.real number) number
  | flag (flag : Bool) : StandsFor (.boolean flag) (ofInt (if flag then 1 else 0))
  | numeral {text : String} {number : Binary64} (isNumeral : Decimal.read? text = some number) :
      StandsFor (.text text) number

/-- The value is an integer that no finite number is nearest to. -/
inductive IsBeyond : Toml.Value → Prop where
  | integer {whole : Int} (above : wholeLimit ≤ whole.natAbs) : IsBeyond (.integer whole)

/-- A value is read as exactly the number that it stands for. -/
theorem number_eq_some_iff : number? value = .ok (some number) ↔ StandsFor value number := by
  constructor
  · intro isRead
    revert isRead
    fun_cases number? value with
    | case1 whole nearest isNearest =>
        rintro ⟨⟩
        exact .integer isNearest
    | case2 => exact nofun
    | case3 number =>
        rintro ⟨⟩
        exact .real number
    | case4 flag =>
        intro isRead
        obtain rfl := Option.some.inj (Except.ok.inj isRead)
        exact .flag flag
    | case5 text => exact fun isRead => .numeral (Except.ok.inj isRead)
    | case6 => exact nofun
  · intro stands
    fun_cases number? value with
    | case1 whole nearest isNearest =>
        cases stands with
        | integer isOther =>
            rw [isNearest] at isOther
            rw [isOther]
    | case2 whole noneNearest =>
        cases stands with
        | integer isNearest => exact absurd isNearest (noneNearest _)
    | case3 | case4 =>
        cases stands
        rfl
    | case5 text =>
        cases stands with
        | numeral isNumeral => rw [isNumeral]
    | case6 => cases stands <;> grind

/-- Only an integer beyond the finite numbers stops the reading of a number. -/
theorem number_eq_error_iff :
    number? value = .error error ↔ IsBeyond value ∧ error = .largeInteger := by
  constructor
  · intro fails
    revert fails
    fun_cases number? value with
    | case2 whole noneNearest =>
        rintro ⟨⟩
        refine ⟨.integer (Nat.le_of_not_lt fun below => ?_), rfl⟩
        obtain ⟨nearest, isNearest⟩ := exists_ofInt_iff.mpr below
        exact noneNearest nearest isNearest
    | case1 | case3 | case4 | case5 | case6 => exact nofun
  · rintro ⟨beyond, rfl⟩
    fun_cases number? value with
    | case1 whole nearest isNearest =>
        cases beyond with
        | integer above =>
            exact absurd (exists_ofInt_iff.mp ⟨nearest, isNearest⟩) (Nat.not_lt.mpr above)
    | case2 => rfl
    | case3 | case4 | case5 => contradiction
    | case6 _ noInteger =>
        cases beyond
        exact absurd rfl (noInteger _)

/-- The reading of a number finds what the value stands for. -/
theorem answers_number (value : Toml.Value) :
    Answers (number? value) (StandsFor value) (IsBeyond value) :=
  ⟨fun _ => number_eq_some_iff, fun _ => number_eq_error_iff⟩

/-- A value stops its reading when it holds an integer beyond the finite numbers in a place that is
looked at, or when it is unusable and its note cannot show it. -/
inductive Stops (large unusable : Prop) (value : Toml.Value) : LoadError → Prop where
  | large (isLarge : large) : Stops large unusable value .largeInteger
  | long (notLarge : ¬ large) (isUnusable : unusable) (isLong : value.hasLongInteger = true) :
      Stops large unusable value .longInteger

section

variable {large unusable : Prop}

/-- An integer beyond the finite numbers is met before anything is noted. -/
theorem stops_iff_of_large (isLarge : large) :
    Stops large unusable value error ↔ error = .largeInteger := by
  constructor
  · rintro (_ | notLarge)
    · rfl
    · contradiction
  · rintro rfl
    exact .large isLarge

/-- A usable value with finite integers does not stop. -/
theorem not_stops (notLarge : ¬ large) (usable : ¬ unusable) (error : LoadError) :
    ¬ Stops large unusable value error := by
  rintro (isLarge | ⟨-, isUnusable⟩) <;> contradiction

/-- An unusable value stops when its note cannot show it. -/
theorem stops_iff_of_unusable (notLarge : ¬ large) (isUnusable : unusable) :
    Stops large unusable value error ↔
      value.hasLongInteger = true ∧ error = .longInteger := by
  constructor
  · rintro (isLarge | ⟨-, -, isLong⟩)
    · contradiction
    · exact ⟨isLong, rfl⟩
  · rintro ⟨isLong, rfl⟩
    exact .long notLarge isUnusable isLong

end

/-- No number that the value stands for is a waste factor. -/
def NoWaste (value : Toml.Value) : Prop :=
  ∀ number, StandsFor value number → isWaste number = false

/-- A value that may be missing gives this waste factor. -/
inductive GivesWaste : Option Toml.Value → Binary64 → Prop where
  | given {value : Toml.Value} {waste : Binary64} (stands : StandsFor value waste)
      (passes : isWaste waste = true) : GivesWaste (some value) waste
  | unusable {value : Toml.Value} (noWaste : NoWaste value) :
      GivesWaste (some value) standardWaste
  | missing : GivesWaste none standardWaste

/-- A note fails when one of the integers in the value is too long. -/
theorem noting_eq_error_iff {Result : Type} {note : Note} {result : Result} :
    (noting value note result).1 = .error error ↔
      value.hasLongInteger = true ∧ error = .longInteger := by
  unfold noting
  split
  · next isLong => simp [isLong, eq_comm]
  · next isShort => simp [isShort]

/-- There are three ways to read a waste factor. -/
theorem readWaste_cases (value : Toml.Value) :
    (IsBeyond value ∧ readWaste value = (.error .largeInteger, [])) ∨
    (∃ waste, StandsFor value waste ∧ isWaste waste = true ∧ readWaste value = (.ok waste, [])) ∨
    ¬ IsBeyond value ∧ NoWaste value ∧
      readWaste value = noting value (wasteNote value) standardWaste := by
  unfold readWaste
  cases isRead : number? value with
  | error error =>
      obtain ⟨beyond, rfl⟩ := number_eq_error_iff.mp isRead
      exact .inl ⟨beyond, rfl⟩
  | ok found =>
      dsimp only
      cases isFiltered : found.filter isWaste with
      | some waste =>
          obtain ⟨rfl, passes⟩ := Option.filter_eq_some_iff.mp isFiltered
          exact .inr (.inl ⟨waste, number_eq_some_iff.mp isRead, passes, rfl⟩)
      | none =>
          refine .inr (.inr ⟨(answers_number value).not_large_of_ok isRead,
            fun number stands => ?_, rfl⟩)
          rw [number_eq_some_iff.mpr stands] at isRead
          cases isRead
          simpa using isFiltered

/-- A waste factor stops when it is beyond the finite numbers or cannot be shown. -/
theorem readWaste_eq_error_iff :
    (readWaste value).1 = .error error ↔ Stops (IsBeyond value) (NoWaste value) value error := by
  rcases readWaste_cases value with ⟨beyond, equal⟩ | ⟨found, stands, passes, equal⟩ |
    ⟨notBeyond, noWaste, equal⟩
  · rw [equal, stops_iff_of_large beyond]
    simp [eq_comm]
  · have usable : ¬ NoWaste value := fun noWaste => by simp [noWaste found stands] at passes
    rw [equal]
    simpa using not_stops ((answers_number value).not_large stands) usable error
  · rw [equal, noting_eq_error_iff, stops_iff_of_unusable notBeyond noWaste]

/-- A value that is read gives the waste factor, or the standard one stands in. -/
theorem givesWaste_of_readWaste (isRead : (readWaste value).1 = .ok waste) :
    GivesWaste (some value) waste := by
  rcases readWaste_cases value with ⟨-, equal⟩ | ⟨found, stands, passes, equal⟩ |
    ⟨-, noWaste, equal⟩
  · rw [equal] at isRead
    cases isRead
  · rw [equal] at isRead
    cases isRead
    exact .given stands passes
  · rw [equal] at isRead
    obtain rfl := eq_of_noting isRead
    exact .unusable noWaste

/-- A value gives one waste factor. -/
theorem GivesWaste.unique {given : Option Toml.Value} {other : Binary64}
    (isFirst : GivesWaste given waste) (isSecond : GivesWaste given other) : waste = other := by
  cases isFirst with
  | given stands passes =>
      cases isSecond with
      | given isOther => exact (answers_number _).unique stands isOther
      | unusable noWaste => simp [noWaste _ stands] at passes
  | unusable noWaste =>
      cases isSecond with
      | given stands passes => simp [noWaste _ stands] at passes
      | unusable => rfl
  | missing =>
      cases isSecond
      rfl

/-- A sheet is described by a table with a name that can be shown and two sides that are numbers. -/
inductive Describes : Toml.Value → Sheet → Prop where
  | table {fields : Toml.Document} {name width height : Toml.Value} {first second : Binary64}
      (hasName : Toml.Value.field? fields "name" = some name)
      (isShort : name.hasLongInteger = false)
      (hasWidth : Toml.Value.field? fields "width" = some width) (isWidth : StandsFor width first)
      (hasHeight : Toml.Value.field? fields "height" = some height)
      (isHeight : StandsFor height second) :
      Describes (.table fields) ⟨name.plainText, .real first, .real second⟩

/-- A side is beyond the finite numbers, and everything that is looked at before it is usable. -/
inductive HasLargeSide : Toml.Value → Prop where
  | width {fields : Toml.Document} {name width : Toml.Value}
      (hasName : Toml.Value.field? fields "name" = some name)
      (isShort : name.hasLongInteger = false)
      (hasWidth : Toml.Value.field? fields "width" = some width) (isLarge : IsBeyond width) :
      HasLargeSide (.table fields)
  | height {fields : Toml.Document} {name width height : Toml.Value} {first : Binary64}
      (hasName : Toml.Value.field? fields "name" = some name)
      (isShort : name.hasLongInteger = false)
      (hasWidth : Toml.Value.field? fields "width" = some width) (isWidth : StandsFor width first)
      (hasHeight : Toml.Value.field? fields "height" = some height)
      (isLarge : IsBeyond height) :
      HasLargeSide (.table fields)

/-- An entry is read as exactly the sheet that it describes. -/
theorem sheet_eq_some_iff : sheet? entry = .ok (some sheet) ↔ Describes entry sheet := by
  constructor
  · intro isSheet
    unfold sheet? at isSheet
    split at isSheet
    · split at isSheet
      · next name width hasName hasWidth =>
          split at isSheet
          · cases isSheet
          · next isShort =>
              obtain ⟨found, isFirst, rest⟩ := Except.bind_eq_ok_iff.mp isSheet
              split at rest
              · next first height hasHeight =>
                  obtain ⟨found, isSecond, rest⟩ := Except.bind_eq_ok_iff.mp rest
                  split at rest
                  · next second =>
                      obtain rfl := Option.some.inj (Except.ok.inj rest)
                      exact .table hasName (eq_false_of_ne_true isShort) hasWidth
                        (number_eq_some_iff.mp isFirst) hasHeight (number_eq_some_iff.mp isSecond)
                  · cases rest
              · cases rest
      · cases isSheet
    · cases isSheet
  · rintro ⟨hasName, isShort, hasWidth, isWidth, hasHeight, isHeight⟩
    unfold sheet?
    dsimp only
    rw [hasName, hasWidth]
    dsimp only
    rw [isShort, number_eq_some_iff.mpr isWidth, hasHeight]
    show (number? _ >>= _) = _
    rw [number_eq_some_iff.mpr isHeight]
    rfl

/-- Only a side beyond the finite numbers stops the reading of a sheet. -/
theorem sheet_eq_error_iff :
    sheet? entry = .error error ↔ HasLargeSide entry ∧ error = .largeInteger := by
  constructor
  · intro fails
    unfold sheet? at fails
    split at fails
    · split at fails
      · next name width hasName hasWidth =>
          split at fails
          · cases fails
          · next isShort =>
              have isShort := eq_false_of_ne_true isShort
              rcases Except.bind_eq_error_iff.mp fails with isFirst | ⟨found, isFirst, rest⟩
              · obtain ⟨isLarge, rfl⟩ := number_eq_error_iff.mp isFirst
                exact ⟨.width hasName isShort hasWidth isLarge, rfl⟩
              · split at rest
                · next first height hasHeight =>
                    rcases Except.bind_eq_error_iff.mp rest with isSecond | ⟨_, _, rest⟩
                    · obtain ⟨isLarge, rfl⟩ := number_eq_error_iff.mp isSecond
                      exact ⟨.height hasName isShort hasWidth (number_eq_some_iff.mp isFirst)
                        hasHeight isLarge, rfl⟩
                    · split at rest <;> cases rest
                · cases rest
      · cases fails
    · cases fails
  · rintro ⟨large, rfl⟩
    cases large with
    | width hasName isShort hasWidth isLarge =>
        unfold sheet?
        dsimp only
        rw [hasName, hasWidth]
        dsimp only
        rw [isShort, number_eq_error_iff.mpr ⟨isLarge, rfl⟩]
        rfl
    | height hasName isShort hasWidth isWidth hasHeight isLarge =>
        unfold sheet?
        dsimp only
        rw [hasName, hasWidth]
        dsimp only
        rw [isShort, number_eq_some_iff.mpr isWidth, hasHeight]
        show (number? _ >>= _) = _
        rw [number_eq_error_iff.mpr ⟨isLarge, rfl⟩]
        rfl

/-- The reading of an entry finds what the entry describes. -/
theorem answers_sheet (entry : Toml.Value) :
    Answers (sheet? entry) (Describes entry) (HasLargeSide entry) :=
  ⟨fun _ => sheet_eq_some_iff, fun _ => sheet_eq_error_iff⟩

/-- There are three ways to read a sheet. -/
theorem readSheet_cases (entry : Toml.Value) :
    (HasLargeSide entry ∧ readSheet entry = (.error .largeInteger, [])) ∨
    (∃ sheet, Describes entry sheet ∧ readSheet entry =
      if hasSize sheet then (.ok (some sheet), []) else (.ok none, [sizeNote sheet])) ∨
    ¬ HasLargeSide entry ∧ (∀ sheet, ¬ Describes entry sheet) ∧
      readSheet entry = noting entry (malformedNote entry) none := by
  unfold readSheet
  cases isRead : sheet? entry with
  | error error =>
      obtain ⟨large, rfl⟩ := sheet_eq_error_iff.mp isRead
      exact .inl ⟨large, rfl⟩
  | ok found =>
      cases found with
      | some sheet => exact .inr (.inl ⟨sheet, sheet_eq_some_iff.mp isRead, rfl⟩)
      | none =>
          refine .inr (.inr ⟨(answers_sheet entry).not_large_of_ok isRead,
            fun sheet describes => ?_, rfl⟩)
          rw [sheet_eq_some_iff.mpr describes] at isRead
          cases isRead

/-- A sheet stops when one of its sides is beyond the finite numbers or it cannot be shown. -/
theorem readSheet_eq_error_iff :
    (readSheet entry).1 = .error error ↔
      Stops (HasLargeSide entry) (∀ sheet, ¬ Describes entry sheet) entry error := by
  rcases readSheet_cases entry with ⟨large, equal⟩ | ⟨sheet, describes, equal⟩ |
    ⟨notLarge, malformed, equal⟩
  · rw [equal, stops_iff_of_large large]
    simp [eq_comm]
  · have wellFormed : ¬ ∀ sheet, ¬ Describes entry sheet := fun malformed =>
      malformed sheet describes
    have goesOn : ¬ Stops (HasLargeSide entry) (∀ sheet, ¬ Describes entry sheet) entry error :=
      not_stops ((answers_sheet entry).not_large describes) wellFormed error
    rw [equal]
    split
    · simpa using goesOn
    · simpa using goesOn
  · rw [equal, noting_eq_error_iff, stops_iff_of_unusable notLarge malformed]

/-- An entry gives a sheet when it describes one that has a size, and nothing otherwise. -/
inductive GivesSheet : Toml.Value → Option Sheet → Prop where
  | kept {entry : Toml.Value} {sheet : Sheet} (describes : Describes entry sheet)
      (sized : hasSize sheet = true) : GivesSheet entry (some sheet)
  | left {entry : Toml.Value} (unsized : ∀ sheet, Describes entry sheet → hasSize sheet = false) :
      GivesSheet entry none

/-- An entry that is read gives its sheet or is left out. -/
theorem givesSheet_of_readSheet {kept : Option Sheet} (isRead : (readSheet entry).1 = .ok kept) :
    GivesSheet entry kept := by
  rcases readSheet_cases entry with ⟨-, equal⟩ | ⟨sheet, describes, equal⟩ | ⟨-, malformed, equal⟩
  · rw [equal] at isRead
    cases isRead
  · rw [equal] at isRead
    split at isRead
    · next sized =>
        cases isRead
        exact .kept describes sized
    · next unsized =>
        cases isRead
        refine .left fun other isOther => ?_
        rw [← (answers_sheet entry).unique describes isOther]
        exact eq_false_of_ne_true unsized
  · rw [equal] at isRead
    obtain rfl := eq_of_noting isRead
    exact .left fun sheet describes => absurd describes (malformed sheet)

/-- An entry gives one sheet at most. -/
theorem givesSheet_rightUnique : Relator.RightUnique GivesSheet := by
  intro entry first second isFirst isSecond
  cases isFirst with
  | kept describes sized =>
      cases isSecond with
      | kept isOther => rw [(answers_sheet entry).unique describes isOther]
      | left unsized => simp [unsized _ describes] at sized
  | left unsized =>
      cases isSecond with
      | kept describes sized => simp [unsized _ describes] at sized
      | left => rfl

end Stock

end Casework
