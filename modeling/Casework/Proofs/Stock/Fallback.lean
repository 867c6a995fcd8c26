import Casework.Proofs.Stock.Parts
import Casework.Proofs.Stock.Soundness
import Mathlib.Data.List.Forall2
import Mathlib.Data.List.ReduceOption

namespace Casework.Stock

variable {waste : Binary64} {error : LoadError} {document : Toml.Document} {stock : Stock}

/-- The first entry that stops the reading stops all of it. -/
inductive EntriesStop : List Toml.Value → LoadError → Prop where
  | here {entry : Toml.Value} {rest : List Toml.Value} {error : LoadError}
      (stops : Stops (HasLargeSide entry) (∀ sheet, ¬ Describes entry sheet) entry error) :
      EntriesStop (entry :: rest) error
  | later {entry : Toml.Value} {rest : List Toml.Value} {error : LoadError}
      (goesOn : ∀ other,
        ¬ Stops (HasLargeSide entry) (∀ sheet, ¬ Describes entry sheet) entry other)
      (stops : EntriesStop rest error) : EntriesStop (entry :: rest) error

/-- A list of entries stops where the first of them does. -/
theorem readSheets_eq_error_iff {entries : List Toml.Value} :
    (readSheets entries).1 = .error error ↔ EntriesStop entries error := by
  induction entries generalizing error with
  | nil => exact ⟨nofun, nofun⟩
  | cons entry rest inductionHypothesis =>
      rw [readSheets_cons, Noted.andThen_stops_iff (fun _ => readSheet_eq_error_iff) fun _ _ =>
        Noted.andThen_ok_eq_error_iff.trans inductionHypothesis]
      constructor
      · rintro (stops | ⟨goesOn, stops⟩)
        · exact .here stops
        · exact .later goesOn stops
      · intro stops
        cases stops with
        | here stops => exact .inl stops
        | later goesOn stops => exact .inr ⟨goesOn, stops⟩

/-- A list that is read keeps what each of its entries gives. -/
theorem exists_kept_of_readSheets {entries : List Toml.Value} {sheets : List Sheet}
    (isRead : (readSheets entries).1 = .ok sheets) :
    ∃ kept, List.Forall₂ GivesSheet entries kept ∧ sheets = kept.reduceOption := by
  induction entries generalizing sheets with
  | nil =>
      cases isRead
      exact ⟨[], .nil, rfl⟩
  | cons entry rest inductionHypothesis =>
      rw [readSheets_cons, Noted.andThen_eq_ok_iff] at isRead
      obtain ⟨first, isFirst, isRead⟩ := isRead
      obtain ⟨others, areOthers, equal⟩ := Noted.andThen_eq_ok_iff.mp isRead
      obtain ⟨kept, given, rfl⟩ := inductionHypothesis areOthers
      refine ⟨first :: kept, .cons (givesSheet_of_readSheet isFirst) given, ?_⟩
      rw [← Except.ok.inj equal]
      cases first <;> rfl

/-- This is the waste factor that a document gives. -/
def documentWaste? (document : Toml.Document) : Option Toml.Value :=
  match Toml.Value.field? document "cutlist" with
  | some (.table fields) => Toml.Value.field? fields "waste_factor"
  | _ => none

/-- A text that is not blank comes before the document. -/
def givenWaste? (document : Toml.Document) (override : String) : Option Toml.Value :=
  if Text.trim override = "" then documentWaste? document else some (.text (Text.trim override))

/-- A document stops at a part that is no table, or at its waste factor. -/
inductive WasteStops (document : Toml.Document) : LoadError → Prop where
  | notTable {value : Toml.Value} (isGiven : Toml.Value.field? document "cutlist" = some value)
      (noTable : ∀ fields, value ≠ .table fields) :
      WasteStops document (.notTable value.typeName)
  | value {fields : Toml.Document} {value : Toml.Value} {error : LoadError}
      (isTable : Toml.Value.field? document "cutlist" = some (.table fields))
      (isGiven : Toml.Value.field? fields "waste_factor" = some value)
      (stops : Stops (IsBeyond value) (NoWaste value) value error) : WasteStops document error

/-- A document stops at its table or at the value in it. -/
theorem documentWaste_eq_error_iff :
    (documentWaste document).1 = .error error ↔ WasteStops document error := by
  unfold documentWaste
  split
  · next isMissing =>
      refine ⟨nofun, ?_⟩
      rintro (⟨isGiven, -⟩ | ⟨isTable, -, -⟩)
      · cases isMissing.symm.trans isGiven
      · cases isMissing.symm.trans isTable
  · next fields isTable =>
      split
      · next isMissing =>
          refine ⟨nofun, ?_⟩
          rintro (⟨isGiven, noTable⟩ | ⟨isOther, isGiven, -⟩)
          · cases isTable.symm.trans isGiven
            exact absurd rfl (noTable fields)
          · cases isTable.symm.trans isOther
            cases isMissing.symm.trans isGiven
      · next value isGiven =>
          rw [readWaste_eq_error_iff]
          refine ⟨.value isTable isGiven, ?_⟩
          rintro (⟨isOther, noTable⟩ | ⟨isOther, isSame, stops⟩)
          · cases isTable.symm.trans isOther
            exact absurd rfl (noTable fields)
          · cases isTable.symm.trans isOther
            cases isGiven.symm.trans isSame
            exact stops
  · next value noTable isGiven =>
      constructor
      · rintro ⟨⟩
        exact .notTable isGiven noTable
      · rintro (⟨isOther, -⟩ | ⟨isTable, -, -⟩)
        · cases isGiven.symm.trans isOther
          rfl
        · cases isGiven.symm.trans isTable
          exact absurd rfl (noTable _)

/-- A document that is read has the waste factor that it gives. -/
theorem givesWaste_of_documentWaste (isRead : (documentWaste document).1 = .ok waste) :
    GivesWaste (documentWaste? document) waste := by
  unfold documentWaste at isRead
  unfold documentWaste?
  split at isRead
  · next isMissing =>
      obtain rfl := Except.ok.inj isRead
      rw [isMissing]
      exact .missing
  · next fields isTable =>
      rw [isTable]
      dsimp only
      split at isRead
      · next isMissing =>
          obtain rfl := Except.ok.inj isRead
          rw [isMissing]
          exact .missing
      · next value isGiven =>
          rw [isGiven]
          exact givesWaste_of_readWaste isRead
  · cases isRead

/-- A text from the environment never stops the loading. -/
theorem overriddenWaste_ne_error (override : String) :
    (overriddenWaste override waste).1 ≠ .error error := by
  unfold overriddenWaste
  split
  · exact nofun
  · rw [Ne, readWaste_eq_error_iff]
    rintro (⟨⟨⟩⟩ | ⟨-, -, isLong⟩)
    simp [Toml.Value.hasLongInteger] at isLong

/-- A text that is not blank decides in place of the document. -/
theorem givesWaste_of_overriddenWaste {override : String} {earlier : Binary64}
    (gives : GivesWaste (documentWaste? document) earlier)
    (isRead : (overriddenWaste override earlier).1 = .ok waste) :
    GivesWaste (givenWaste? document override) waste := by
  unfold overriddenWaste at isRead
  unfold givenWaste?
  split at isRead
  · next isBlank =>
      obtain rfl := Except.ok.inj isRead
      rw [if_pos isBlank]
      exact gives
  · next text notBlank =>
      rw [if_neg notBlank]
      exact givesWaste_of_readWaste isRead

/-- These are the entries of the sheets that a document gives. -/
def givenEntries (document : Toml.Document) : List Toml.Value :=
  ((Toml.Value.field? document "sheets").bind entries?).getD []

/-- A document stops at a part that has no entries, or at one of the entries. -/
inductive SheetsStop (document : Toml.Document) : LoadError → Prop where
  | notIterable {value : Toml.Value} (isGiven : Toml.Value.field? document "sheets" = some value)
      (noEntries : entries? value = none) : SheetsStop document (.notIterable value.typeName)
  | entries {error : LoadError} (stops : EntriesStop (givenEntries document) error) :
      SheetsStop document error

/-- A document stops at sheets without entries or at one of the entries. -/
theorem documentSheets_eq_error_iff :
    (documentSheets document).1 = .error error ↔ SheetsStop document error := by
  unfold documentSheets
  split
  · next isMissing =>
      refine ⟨nofun, ?_⟩
      rintro (⟨isGiven, -⟩ | stops)
      · cases isMissing.symm.trans isGiven
      · rw [givenEntries, isMissing] at stops
        cases stops
  · next value isGiven =>
      split
      · next entries hasEntries =>
          have areEntries : givenEntries document = entries := by
            rw [givenEntries, isGiven, Option.bind_some, hasEntries, Option.getD_some]
          rw [readSheets_eq_error_iff, ← areEntries]
          refine ⟨.entries, ?_⟩
          rintro (⟨isOther, noEntries⟩ | stops)
          · cases isGiven.symm.trans isOther
            cases hasEntries.symm.trans noEntries
          · exact stops
      · next noEntries =>
          constructor
          · rintro ⟨⟩
            exact .notIterable isGiven noEntries
          · rintro (⟨isOther, -⟩ | stops)
            · cases isGiven.symm.trans isOther
              rfl
            · rw [givenEntries, isGiven, Option.bind_some, noEntries] at stops
              cases stops

/-- A document that is read keeps what each of its entries gives. -/
theorem exists_kept_of_documentSheets {sheets : List Sheet}
    (isRead : (documentSheets document).1 = .ok sheets) :
    ∃ kept, List.Forall₂ GivesSheet (givenEntries document) kept ∧ sheets = kept.reduceOption := by
  unfold documentSheets at isRead
  unfold givenEntries
  split at isRead
  · next isMissing =>
      cases isRead
      rw [isMissing]
      exact ⟨[], .nil, rfl⟩
  · next value isGiven =>
      rw [isGiven, Option.bind_some]
      split at isRead
      · next entries hasEntries =>
          rw [hasEntries]
          exact exists_kept_of_readSheets isRead
      · cases isRead

/-- The first part that stops the reading stops all of it. The waste factor comes before the
sheets. -/
inductive DocumentStops (document : Toml.Document) : LoadError → Prop where
  | waste {error : LoadError} (stops : WasteStops document error) : DocumentStops document error
  | sheets {error : LoadError} (goesOn : ∀ other, ¬ WasteStops document other)
      (stops : SheetsStop document error) : DocumentStops document error

/-- The stock has what the document and the text give. The standard waste factor and the standard
sheets stand in for what is missing or unusable. -/
structure FallsBack (document : Toml.Document) (override : String) (stock : Stock) : Prop where
  waste : ∃ waste, GivesWaste (givenWaste? document override) waste ∧ stock.waste = .real waste
  sheets : ∃ kept, List.Forall₂ GivesSheet (givenEntries document) kept ∧
    stock.sheets = orStandard kept.reduceOption

section

variable {first second : Toml.Document} {override otherOverride : String} {other : Stock}

/-- The waste factor depends on its table and on the text that overrides it, and on nothing else. -/
theorem FallsBack.waste_eq (isFirst : FallsBack first override stock)
    (isSecond : FallsBack second override other)
    (sameTable : Toml.Value.field? second "cutlist" = Toml.Value.field? first "cutlist") :
    other.waste = stock.waste := by
  obtain ⟨waste, gives, hasWaste⟩ := isFirst.waste
  obtain ⟨otherWaste, givesOther, hasOther⟩ := isSecond.waste
  have sameGiven : givenWaste? second override = givenWaste? first override := by
    rw [givenWaste?, givenWaste?, documentWaste?, documentWaste?, sameTable]
  rw [sameGiven] at givesOther
  rw [hasWaste, hasOther, givesOther.unique gives]

/-- The sheets depend on their entries and on nothing else. -/
theorem FallsBack.sheets_eq (isFirst : FallsBack first override stock)
    (isSecond : FallsBack second otherOverride other)
    (sameEntries : Toml.Value.field? second "sheets" = Toml.Value.field? first "sheets") :
    other.sheets = stock.sheets := by
  obtain ⟨kept, areKept, hasSheets⟩ := isFirst.sheets
  obtain ⟨otherKept, areOther, hasOther⟩ := isSecond.sheets
  have sameGiven : givenEntries second = givenEntries first := by
    rw [givenEntries, givenEntries, sameEntries]
  rw [sameGiven] at areOther
  rw [hasSheets, hasOther, givesSheet_rightUnique.forall₂ areOther areKept]

/-- A document and a text determine the stock. -/
theorem FallsBack.unique (isFirst : FallsBack document override stock)
    (isSecond : FallsBack document override other) : stock = other := by
  have sameWaste := isSecond.waste_eq isFirst rfl
  have sameSheets := isSecond.sheets_eq isFirst rfl
  cases stock
  cases other
  simp_all

end

/-- A document stops at its waste factor first and at its sheets after it. -/
theorem ofDocument_eq_error_iff {override : String} :
    (ofDocument document override).1 = .error error ↔ DocumentStops document error := by
  -- the text never stops the reading, so only the sheets can
  have afterWaste (earlier : Binary64) (error : LoadError) :
      ((overriddenWaste override earlier).andThen fun waste =>
        (documentSheets document).andThen fun sheets =>
          (.ok (⟨.real waste, orStandard sheets⟩ : Stock), [])).1 = .error error ↔
        SheetsStop document error := by
    rw [Noted.andThen_stops_iff (fun _ => iff_false_intro (overriddenWaste_ne_error override))
      fun _ _ => Noted.andThen_ok_eq_error_iff.trans documentSheets_eq_error_iff]
    simp
  unfold ofDocument
  rw [Noted.andThen_stops_iff (fun _ => documentWaste_eq_error_iff) afterWaste]
  constructor
  · rintro (stops | ⟨goesOn, stops⟩)
    · exact .waste stops
    · exact .sheets goesOn stops
  · intro stops
    cases stops with
    | waste stops => exact .inl stops
    | sheets goesOn stops => exact .inr ⟨goesOn, stops⟩

/-- A document that does not stop gives the stock of the law. -/
theorem fallsBack_of_ofDocument {override : String}
    (isRead : (ofDocument document override).1 = .ok stock) :
    FallsBack document override stock := by
  obtain ⟨earlier, isEarlier, isRead⟩ := Noted.andThen_eq_ok_iff.mp isRead
  obtain ⟨waste, isWaste, isRead⟩ := Noted.andThen_eq_ok_iff.mp isRead
  obtain ⟨sheets, areSheets, equal⟩ := Noted.andThen_eq_ok_iff.mp isRead
  obtain ⟨kept, areKept, rfl⟩ := exists_kept_of_documentSheets areSheets
  cases equal
  have gives := givesWaste_of_overriddenWaste (givesWaste_of_documentWaste isEarlier) isWaste
  exact ⟨⟨waste, gives, rfl⟩, kept, areKept, rfl⟩

/-- A chosen file stops the loading when it is not there or holds no document. -/
inductive FileStops (setup : Setup) : LoadError → Prop where
  | missing {name : String} (isChosen : setup.chosenFile? = some name)
      (isMissing : setup.content? name = none) : FileStops setup .missingFile
  | malformed {name text : String} (isChosen : setup.chosenFile? = some name)
      (hasText : setup.content? name = some text) (fails : Toml.read text = .error .malformed) :
      FileStops setup .invalidDocument
  | deepNesting {name text : String} (isChosen : setup.chosenFile? = some name)
      (hasText : setup.content? name = some text) (fails : Toml.read text = .error .deepNesting) :
      FileStops setup .deepNesting
  | longNumeral {name text : String} {digits : Nat} (isChosen : setup.chosenFile? = some name)
      (hasText : setup.content? name = some text)
      (fails : Toml.read text = .error (.longInteger digits)) :
      FileStops setup (.longNumeral digits)

/-- A setup has no document for the reasons that stop its file. -/
theorem document_eq_error_iff {setup : Setup} :
    setup.document = .error error ↔ FileStops setup error := by
  constructor
  · intro fails
    unfold Setup.document at fails
    split at fails
    · cases fails
    · next name isChosen =>
        split at fails
        · next isMissing =>
            cases fails
            exact .missing isChosen isMissing
        · next text hasText =>
            split at fails
            · cases fails
            · next isRead =>
                cases fails
                exact .malformed isChosen hasText isRead
            · next isRead =>
                cases fails
                exact .deepNesting isChosen hasText isRead
            · next digits isRead =>
                cases fails
                exact .longNumeral isChosen hasText isRead
  · intro stops
    unfold Setup.document
    cases stops with
    | missing isChosen isMissing => simp only [isChosen, isMissing]
    | malformed isChosen hasText fails => simp only [isChosen, hasText, fails]
    | deepNesting isChosen hasText fails => simp only [isChosen, hasText, fails]
    | longNumeral isChosen hasText fails => simp only [isChosen, hasText, fails]

/-- Settings give a stock exactly when no chosen file and no part of its document stops the loading.
Then unusable and missing parts fall back to the standard ones. Otherwise the error is the one of
the file or of the first part that stops. -/
theorem load_falls_back (setup : Setup) :
    ((∃ stock, (load setup).1 = .ok stock) ↔
      ∃ document, setup.document = .ok document ∧ ∀ error, ¬ DocumentStops document error) ∧
    (∀ stock, (load setup).1 = .ok stock ↔
      ∃ document, setup.document = .ok document ∧ (∀ error, ¬ DocumentStops document error) ∧
        FallsBack document setup.override stock) ∧
    ∀ error, (load setup).1 = .error error ↔
      FileStops setup error ∨
        ∃ document, setup.document = .ok document ∧ DocumentStops document error := by
  unfold load
  cases isDocument : setup.document with
  | error failure =>
      have stops (error : LoadError) : FileStops setup error ↔ error = failure := by
        rw [← document_eq_error_iff, isDocument, Except.error.injEq, eq_comm]
      simp [stops, eq_comm]
  | ok document =>
      have opens (error : LoadError) : ¬ FileStops setup error := by
        rw [← document_eq_error_iff, isDocument]
        exact nofun
      have goesOn : (∃ stock, (ofDocument document setup.override).1 = .ok stock) ↔
          ∀ error, ¬ DocumentStops document error :=
        Noted.exists_ok_iff fun _ => ofDocument_eq_error_iff
      refine ⟨by simpa using goesOn, fun stock => ?_, fun error => ?_⟩
      · constructor
        · intro isRead
          exact ⟨document, rfl, goesOn.mp ⟨stock, isRead⟩, fallsBack_of_ofDocument isRead⟩
        · rintro ⟨_, ⟨⟩, noStop, falls⟩
          obtain ⟨found, isRead⟩ := goesOn.mpr noStop
          rw [← (fallsBack_of_ofDocument isRead).unique falls]
          exact isRead
      · simpa [opens] using ofDocument_eq_error_iff

/-- None of these documents gives a stock. Two of them have no collection where one is looked for,
and two have an integer beyond the finite numbers. -/
theorem exists_load_stopped :
    let beyond : Toml.Value := .integer (Nat.pow 10 309)
    (load (.ofText "cutlist = 5\n" "")).1 = .error (.notTable "int") ∧
    (load (.ofText "sheets = 5\n" "")).1 = .error (.notIterable "int") ∧
    (ofDocument [("cutlist", .table [("waste_factor", beyond)])] "").1 = .error .largeInteger ∧
    (ofDocument [("sheets", .list [.table [("name", .text "long"), ("width", beyond),
      ("height", .integer 2070)]])] "").1 = .error .largeInteger := by
  decide +kernel

end Casework.Stock
