import Casework.Proofs.Stock.Fallback

namespace Casework

open Binary64

namespace Toml.Value

mutual

/-- These are the integers that stand anywhere in the value. -/
def integers : Value → List Int
  | .integer value => [value]
  | .list items => itemIntegers items
  | .table fields => fieldIntegers fields
  | _ => []

def itemIntegers : List Value → List Int
  | [] => []
  | item :: rest => item.integers ++ itemIntegers rest

def fieldIntegers : List (String × Value) → List Int
  | [] => []
  | (_, value) :: rest => value.integers ++ fieldIntegers rest

end

/-- Every integer that stands in the value has a nearest finite number. -/
def InRange (value : Value) : Prop :=
  ∀ whole ∈ value.integers, ∃ nearest, ofInt whole = .finite nearest

instance (value : Value) : Decidable value.InRange :=
  haveI := fun whole : Int => decidable_of_iff (whole.natAbs < wholeLimit) exists_ofInt_iff.symm
  List.decidableBAll _ value.integers

def isTable : Value → Bool
  | .table _ => true
  | _ => false

def isList : Value → Bool
  | .list _ => true
  | _ => false

variable {value : Value} {items : List Value} {fields : List (String × Value)}

theorem isTable_iff : value.isTable = true ↔ ∃ fields, value = .table fields := by
  cases value <;> simp [isTable]

theorem isList_iff : value.isList = true ↔ ∃ items, value = .list items := by
  cases value <;> simp [isList]

/-- The integers of a list are those of its items. -/
theorem itemIntegers_eq : itemIntegers items = items.flatMap integers := by
  induction items with
  | nil => rfl
  | cons item rest inductionHypothesis =>
      rw [itemIntegers, inductionHypothesis, List.flatMap_cons]

/-- The integers of a table are those of its values. -/
theorem fieldIntegers_eq : fieldIntegers fields = fields.flatMap fun field => field.2.integers := by
  induction fields with
  | nil => rfl
  | cons field rest inductionHypothesis =>
      rw [fieldIntegers, inductionHypothesis, List.flatMap_cons]

/-- The items of a value in range are in range. -/
theorem InRange.item (inRange : InRange (.list items)) (isMember : value ∈ items) :
    InRange value := by
  intro whole isWhole
  refine inRange whole ?_
  rw [integers, itemIntegers_eq]
  exact List.mem_flatMap.mpr ⟨value, isMember, isWhole⟩

/-- The fields of a table in range are in range. -/
theorem InRange.field {name : String} (inRange : InRange (.table fields))
    (isField : field? fields name = some value) : InRange value := by
  intro whole isWhole
  refine inRange whole ?_
  rw [integers, fieldIntegers_eq]
  exact List.mem_flatMap.mpr ⟨(name, value), List.mem_of_lookup isField, isWhole⟩

mutual

/-- A value cannot be shown when one of its integers has too many digits. -/
theorem hasLongInteger_eq : (value : Value) →
    value.hasLongInteger = value.integers.any Decimal.isLong
  | .integer whole => by rw [hasLongInteger, integers, List.any_cons, List.any_nil, Bool.or_false]
  | .list items => itemsHaveLongInteger_eq items
  | .table fields => fieldsHaveLongInteger_eq fields
  | .text _ => rfl
  | .real _ => rfl
  | .boolean _ => rfl
  | .date _ => rfl
  | .time _ => rfl
  | .moment _ => rfl

theorem itemsHaveLongInteger_eq : (items : List Value) →
    itemsHaveLongInteger items = (itemIntegers items).any Decimal.isLong
  | [] => rfl
  | item :: rest => by
      rw [itemsHaveLongInteger, itemIntegers, List.any_append, hasLongInteger_eq item,
        itemsHaveLongInteger_eq rest]

theorem fieldsHaveLongInteger_eq : (fields : List (String × Value)) →
    fieldsHaveLongInteger fields = (fieldIntegers fields).any Decimal.isLong
  | [] => rfl
  | (_, value) :: rest => by
      rw [fieldsHaveLongInteger, fieldIntegers, List.any_append, hasLongInteger_eq value,
        fieldsHaveLongInteger_eq rest]

end

/-- Integers in range are short. -/
theorem InRange.isShort (inRange : InRange value) : value.hasLongInteger = false := by
  have limited : wholeLimit ≤ Decimal.leastLong := by decide +kernel
  refine eq_false_of_ne_true fun isLong => ?_
  rw [hasLongInteger_eq] at isLong
  obtain ⟨whole, isMember, isWhole⟩ := List.any_eq_true.mp isLong
  have below : whole.natAbs < wholeLimit := exists_ofInt_iff.mp (inRange whole isMember)
  exact Nat.not_le.mpr (Nat.lt_of_lt_of_le below limited) (Decimal.leastLong_le_of_isLong isWhole)

end Toml.Value

namespace Stock

open Toml.Value (InRange)

variable {value entry : Toml.Value} {entries rest : List Toml.Value} {sheet : Sheet}
  {sheets : List Sheet} {error : LoadError}

/-- A value in range has a finite number when it is an integer. -/
theorem not_isBeyond (inRange : value.InRange) : ¬ IsBeyond value := by
  rintro @⟨whole, above⟩
  exact Nat.not_lt.mpr above (exists_ofInt_iff.mp (inRange whole (List.mem_singleton_self whole)))

/-- An entry in range has no side beyond the finite numbers. -/
theorem not_hasLargeSide (inRange : entry.InRange) : ¬ HasLargeSide entry := by
  intro large
  cases large with
  | width hasName isShort hasWidth isLarge => exact not_isBeyond (inRange.field hasWidth) isLarge
  | height hasName isShort hasWidth isWidth hasHeight isLarge =>
      exact not_isBeyond (inRange.field hasHeight) isLarge

/-- A value with integers in range stops nothing. -/
theorem not_stops_of_inRange {large unusable : Prop} (inRange : value.InRange)
    (notLarge : ¬ large) : ¬ Stops large unusable value error := by
  rintro (isLarge | ⟨-, -, isLong⟩)
  · exact notLarge isLarge
  · rw [inRange.isShort] at isLong
    contradiction

/-- Entries in range never stop the loading. -/
theorem not_entriesStop (inRange : ∀ entry ∈ entries, entry.InRange) :
    ¬ EntriesStop entries error := by
  intro stops
  induction stops with
  | here stops =>
      have first := inRange _ (List.mem_cons_self ..)
      exact not_stops_of_inRange first (not_hasLargeSide first) stops
  | later goesOn stops inductionHypothesis =>
      exact inductionHypothesis fun entry isMember =>
        inRange entry (List.mem_cons_of_mem _ isMember)

/-- An entry qualifies as a sheet when it is a table with a name and two sides that stand for
numbers, and neither side is at most zero. -/
inductive Qualifies : Toml.Value → Sheet → Prop where
  | table {fields : Toml.Document} {name width height : Toml.Value} {first second : Binary64}
      (hasName : Toml.Value.field? fields "name" = some name)
      (hasWidth : Toml.Value.field? fields "width" = some width) (isWidth : StandsFor width first)
      (hasHeight : Toml.Value.field? fields "height" = some height)
      (isHeight : StandsFor height second) (isWide : first.atMost zero = false)
      (isHigh : second.atMost zero = false) :
      Qualifies (.table fields) ⟨name.plainText, .real first, .real second⟩

/-- An entry gives one sheet with its own values. -/
theorem Qualifies.unique {other : Sheet} (isFirst : Qualifies entry sheet)
    (isSecond : Qualifies entry other) : sheet = other := by
  obtain ⟨hasName, hasWidth, isWidth, hasHeight, isHeight⟩ := isFirst
  obtain ⟨otherName, otherWidth, isOtherWidth, otherHeight, isOtherHeight⟩ := isSecond
  cases hasName.symm.trans otherName
  cases hasWidth.symm.trans otherWidth
  cases hasHeight.symm.trans otherHeight
  rw [(answers_number _).unique isWidth isOtherWidth,
    (answers_number _).unique isHeight isOtherHeight]

/-- A sheet has a size when neither side is at most zero. -/
theorem hasSize_real_iff {name : String} {width height : Binary64} :
    hasSize ⟨name, .real width, .real height⟩ = true ↔
      width.atMost zero = false ∧ height.atMost zero = false := by
  simp [hasSize, Amount.isAtMostZero]

/-- An entry in range gives a sheet exactly when it qualifies with it. -/
theorem givesSheet_some_iff (inRange : entry.InRange) :
    GivesSheet entry (some sheet) ↔ Qualifies entry sheet := by
  constructor
  · rintro ⟨describes, sized⟩
    cases describes with
    | table hasName isShort hasWidth isWidth hasHeight isHeight =>
        obtain ⟨isWide, isHigh⟩ := hasSize_real_iff.mp sized
        exact .table hasName hasWidth isWidth hasHeight isHeight isWide isHigh
  · rintro ⟨hasName, hasWidth, isWidth, hasHeight, isHeight, isWide, isHigh⟩
    exact .kept (.table hasName (inRange.field hasName).isShort hasWidth isWidth hasHeight isHeight)
      (hasSize_real_iff.mpr ⟨isWide, isHigh⟩)

/-- The sheets of the entries that qualify are kept in the order of the entries. -/
inductive Keeps : List Toml.Value → List Sheet → Prop where
  | nil : Keeps [] []
  | kept {entry : Toml.Value} {sheet : Sheet} {entries : List Toml.Value} {sheets : List Sheet}
      (qualifies : Qualifies entry sheet) (others : Keeps entries sheets) :
      Keeps (entry :: entries) (sheet :: sheets)
  | left {entry : Toml.Value} {entries : List Toml.Value} {sheets : List Sheet}
      (unqualified : ∀ sheet, ¬ Qualifies entry sheet) (others : Keeps entries sheets) :
      Keeps (entry :: entries) sheets

/-- What the entries give one by one is what the list keeps. -/
theorem keeps_of_givesSheet {kept : List (Option Sheet)}
    (inRange : ∀ entry ∈ entries, entry.InRange) (given : List.Forall₂ GivesSheet entries kept) :
    Keeps entries kept.reduceOption := by
  induction given with
  | nil => exact .nil
  | @cons entry found entries kept gives _ inductionHypothesis =>
      obtain ⟨isEntry, areOthers⟩ := List.forall_mem_cons.mp inRange
      have others := inductionHypothesis areOthers
      cases found with
      | some sheet => exact .kept ((givesSheet_some_iff isEntry).mp gives) others
      | none =>
          refine .left (fun sheet qualifies => ?_) others
          have givesOther := (givesSheet_some_iff isEntry).mpr qualifies
          cases givesSheet_rightUnique gives givesOther

/-- No sheet is kept exactly when no entry qualifies. -/
theorem Keeps.eq_nil_iff (keeps : Keeps entries sheets) :
    sheets = [] ↔ ∀ entry ∈ entries, ∀ sheet, ¬ Qualifies entry sheet := by
  induction keeps with
  | nil => simp
  | kept qualifies _ _ =>
      refine ⟨nofun, fun unqualified => ?_⟩
      exact absurd qualifies (unqualified _ (List.mem_cons_self ..) _)
  | left unqualified _ inductionHypothesis =>
      rw [inductionHypothesis, List.forall_mem_cons, and_iff_right unqualified]

/-- An entry that qualifies is kept between what is kept of the entries around it. -/
theorem Keeps.exists_around {before after : List Toml.Value}
    (keeps : Keeps (before ++ entry :: after) sheets) (qualifies : Qualifies entry sheet) :
    ∃ front back, Keeps before front ∧ Keeps after back ∧ sheets = front ++ sheet :: back := by
  induction before generalizing sheets with
  | nil =>
      cases keeps with
      | kept isOther others =>
          rw [isOther.unique qualifies]
          exact ⟨[], _, .nil, others, rfl⟩
      | left unqualified => exact absurd qualifies (unqualified sheet)
  | cons first before inductionHypothesis =>
      cases keeps with
      | kept isFirst others =>
          obtain ⟨front, back, areBefore, areAfter, rfl⟩ := inductionHypothesis others
          exact ⟨_ :: front, back, .kept isFirst areBefore, areAfter, rfl⟩
      | left unqualified others =>
          obtain ⟨front, back, areBefore, areAfter, rfl⟩ := inductionHypothesis others
          exact ⟨front, back, .left unqualified areBefore, areAfter, rfl⟩

/-- A regular document has a table and a list where they are looked for, and all its integers are in
range. -/
structure IsRegular (document : Toml.Document) : Prop where
  table : (Toml.Value.field? document "cutlist").all Toml.Value.isTable = true
  list : (Toml.Value.field? document "sheets").all Toml.Value.isList = true
  inRange : InRange (.table document)

instance (document : Toml.Document) : Decidable (IsRegular document) :=
  decidable_of_iff
    ((Toml.Value.field? document "cutlist").all Toml.Value.isTable = true ∧
      (Toml.Value.field? document "sheets").all Toml.Value.isList = true ∧
      InRange (.table document))
    ⟨fun ⟨table, list, inRange⟩ => ⟨table, list, inRange⟩,
      fun regular => ⟨regular.table, regular.list, regular.inRange⟩⟩

namespace IsRegular

variable {document : Toml.Document}

/-- A regular document has a table for its waste factor, if anything. -/
theorem exists_table (regular : IsRegular document)
    (isGiven : Toml.Value.field? document "cutlist" = some value) :
    ∃ fields, value = .table fields := by
  have isTable := regular.table
  rw [isGiven, Option.all_some] at isTable
  exact Toml.Value.isTable_iff.mp isTable

/-- A regular document has a list of sheets, if anything. -/
theorem exists_list (regular : IsRegular document)
    (isGiven : Toml.Value.field? document "sheets" = some value) :
    ∃ items, value = .list items := by
  have isList := regular.list
  rw [isGiven, Option.all_some] at isList
  exact Toml.Value.isList_iff.mp isList

/-- The entries of a regular document are in range. -/
theorem entry_inRange (regular : IsRegular document) :
    ∀ entry ∈ givenEntries document, entry.InRange := by
  intro entry isMember
  unfold givenEntries at isMember
  cases isGiven : Toml.Value.field? document "sheets" with
  | none =>
      rw [isGiven] at isMember
      cases isMember
  | some value =>
      obtain ⟨items, rfl⟩ := regular.exists_list isGiven
      rw [isGiven] at isMember
      exact (regular.inRange.field isGiven).item isMember

/-- A regular document does not stop at its waste factor. -/
theorem not_wasteStops (regular : IsRegular document) : ¬ WasteStops document error := by
  rintro (⟨isGiven, noTable⟩ | ⟨isTable, isGiven, stops⟩)
  · obtain ⟨fields, isTable⟩ := regular.exists_table isGiven
    exact noTable fields isTable
  · have valueInRange := (regular.inRange.field isTable).field isGiven
    exact not_stops_of_inRange valueInRange (not_isBeyond valueInRange) stops

/-- A regular document does not stop at its sheets. -/
theorem not_sheetsStop (regular : IsRegular document) : ¬ SheetsStop document error := by
  rintro (⟨isGiven, noEntries⟩ | stops)
  · obtain ⟨items, rfl⟩ := regular.exists_list isGiven
    cases noEntries
  · exact not_entriesStop regular.entry_inRange stops

/-- Nothing in a regular document stops the loading. -/
theorem exists_stock (regular : IsRegular document) (override : String) :
    ∃ stock, (ofDocument document override).1 = .ok stock := by
  rw [Noted.exists_ok_iff fun _ => ofDocument_eq_error_iff]
  rintro error (stops | ⟨-, stops⟩)
  · exact regular.not_wasteStops stops
  · exact regular.not_sheetsStop stops

end IsRegular

/-- Loading reads the document that the setup opens. -/
theorem load_of_document {setup : Setup} {document : Toml.Document}
    (opened : setup.document = .ok document) : load setup = ofDocument document setup.override := by
  rw [load, opened]

/-- Settings whose document is regular give a stock. The waste factor is the one of the text that is
not blank, else the one of the document, else the standard one, and the standard one stands in for
what is no number of at least zero. The sheets are those of the entries that qualify, in their order
and each by itself, and the standard sheets are taken exactly when no entry qualifies. Other
settings with the same entries give the same sheets, and others with the same table and text give
the same waste factor. -/
theorem load_selects (setup : Setup) (document : Toml.Document)
    (opened : setup.document = .ok document) (regular : IsRegular document) :
    ∃ waste kept, (load setup).1 = .ok ⟨.real waste, orStandard kept⟩ ∧
      GivesWaste (givenWaste? document setup.override) waste ∧
      Keeps (givenEntries document) kept ∧
      (kept = [] ↔ ∀ entry ∈ givenEntries document, ∀ sheet, ¬ Qualifies entry sheet) ∧
      (∀ before entry after sheet, givenEntries document = before ++ entry :: after →
        Qualifies entry sheet →
          ∃ front back, Keeps before front ∧ Keeps after back ∧ kept = front ++ sheet :: back) ∧
      ∀ (other : Setup) (otherDocument : Toml.Document) (stock : Stock),
        other.document = .ok otherDocument → (load other).1 = .ok stock →
          (Toml.Value.field? otherDocument "sheets" = Toml.Value.field? document "sheets" →
            stock.sheets = orStandard kept) ∧
          (Toml.Value.field? otherDocument "cutlist" = Toml.Value.field? document "cutlist" →
            other.override = setup.override → stock.waste = .real waste) := by
  obtain ⟨stock, isRead⟩ := regular.exists_stock setup.override
  have falls := fallsBack_of_ofDocument isRead
  obtain ⟨waste, gives, hasWaste⟩ := falls.waste
  obtain ⟨found, areFound, hasSheets⟩ := falls.sheets
  have keeps := keeps_of_givesSheet regular.entry_inRange areFound
  have loaded : stock = ⟨.real waste, orStandard found.reduceOption⟩ := by
    rw [← hasWaste, ← hasSheets]
  refine ⟨waste, found.reduceOption, ?_, gives, keeps, keeps.eq_nil_iff, ?_, ?_⟩
  · rw [load_of_document opened, isRead, loaded]
  · intro before entry after sheet split qualifies
    rw [split] at keeps
    exact keeps.exists_around qualifies
  · intro other otherDocument otherStock otherOpened isOther
    rw [load_of_document otherOpened] at isOther
    have fallsOther := fallsBack_of_ofDocument isOther
    refine ⟨fun sameEntries => ?_, fun sameTable sameOverride => ?_⟩
    · rw [← hasSheets]
      exact falls.sheets_eq fallsOther sameEntries
    · rw [sameOverride] at fallsOther
      rw [← hasWaste]
      exact falls.waste_eq fallsOther sameTable

/-- A number, a flat sheet and a waste factor in words are passed over, and a numeral between quotes
is a side. -/
theorem load_selects_mixed :
    let text := "sheets = [3, \x7bname = 7, width = '2800', height = 2070.5\x7d, " ++
      "\x7bname = 'flat', width = 0, height = 9\x7d]\n[cutlist]\nwaste_factor = 'high'\n"
    let sheet : Sheet := ⟨"7", .real (.ofInt 2800), .real (.ofRatio false 4141 2)⟩
    let setup := Setup.ofText text " 0.25 "
    ∃ document, setup.document = .ok document ∧ IsRegular document ∧
      (load setup).1 = .ok ⟨.real (.ofRatio false 1 4), [sheet]⟩ ∧
      GivesWaste (some (.text "0.25")) (.ofRatio false 1 4) ∧
      Keeps (givenEntries document) [sheet] := by
  intro text sheet setup
  have isRegular : setup.document.toOption.any (fun found => decide (IsRegular found)) = true := by
    decide +kernel
  have loaded : (load setup).1 = .ok ⟨.real (.ofRatio false 1 4), [sheet]⟩ := by decide +kernel
  have overrides : Text.trim setup.override = "0.25" := by decide +kernel
  obtain ⟨document, opened, found⟩ := Except.any_toOption_iff.mp isRegular
  have regular := of_decide_eq_true found
  obtain ⟨waste, kept, selected, gives, keeps, -⟩ := load_selects setup document opened regular
  rw [loaded, Except.ok.injEq, Stock.mk.injEq, Amount.real.injEq] at selected
  obtain ⟨rfl, sheets⟩ := selected
  have isKept : kept = [sheet] := by
    unfold orStandard at sheets
    split at sheets
    · exact absurd (congrArg List.length sheets) (by decide)
    · exact sheets.symm
  rw [givenWaste?, overrides, if_neg (by decide)] at gives
  exact ⟨document, opened, regular, loaded, gives, isKept ▸ keeps⟩

end Stock

end Casework
