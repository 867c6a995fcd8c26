import Casework.Proofs.Cache.Contents
import Casework.Proofs.Template.Outcomes
import Mathlib.Data.List.Induction

namespace Casework

def Expression.isWellFormed (source : String) : Bool := (Expression.parse source).toOption.isSome

namespace Batch

/-- Every text is read without a name. -/
def readings (sources : List String) : List Formula.Entry :=
  sources.map fun source => Formula.read source none

/-- These are the formulas among the readings. -/
def formulas (sources : List String) : List Formula :=
  (readings sources).filterMap Except.toOption

/-- Formulas are all readable. -/
theorem readable_map_ok (formulas : List Formula) : readable (formulas.map .ok) = formulas := by
  induction formulas with
  | nil => rfl
  | cons formula rest inductionHypothesis => exact congrArg (formula :: ·) inductionHypothesis

/-- An error among the entries stops the batch. -/
theorem length_readable_lt {entries : List Formula.Entry} {error : SyntaxError}
    (isMember : .error error ∈ entries) : (readable entries).length < entries.length := by
  induction entries with
  | nil => contradiction
  | cons entry rest inductionHypothesis =>
      cases entry with
      | error found => exact Nat.zero_lt_succ _
      | ok formula =>
          have later : .error error ∈ rest := by simpa using isMember
          exact Nat.succ_lt_succ (inductionHypothesis later)

/-- A list of formulas is evaluated. -/
theorem evaluateEntries_map_ok (formulas : List Formula) (bindings : Bindings) :
    (evaluateEntries (formulas.map .ok) bindings).1 = .ok (outcomes formulas bindings) := by
  unfold evaluateEntries
  rw [readable_map_ok]
  simp [outcomes]

/-- One error among the entries refuses the list, since it has no name. -/
theorem evaluateEntries_of_mem_error {entries : List Formula.Entry} {error : SyntaxError}
    (isMember : .error error ∈ entries) (bindings : Bindings) :
    (evaluateEntries entries bindings).1 = .error .unnamedEntry := by
  unfold evaluateEntries
  rw [if_neg (Nat.ne_of_lt (length_readable_lt isMember))]

/-- Entries without an error are formulas. -/
theorem eq_map_ok_of_forall_isSome {entries : List Formula.Entry}
    (all : ∀ entry ∈ entries, entry.toOption.isSome = true) :
    entries = (entries.filterMap Except.toOption).map .ok := by
  induction entries with
  | nil => rfl
  | cons entry rest inductionHypothesis =>
      rw [List.forall_mem_cons] at all
      cases entry with
      | error error => simp [Except.toOption] at all
      | ok formula => exact congrArg (Except.ok formula :: ·) (inductionHypothesis all.2)

theorem isSome_read (source : String) (name : Option String) :
    (Formula.read source name).toOption.isSome = Expression.isWellFormed source := by
  unfold Formula.read Expression.isWellFormed
  cases Expression.parse source <;> rfl

/-- The readings of texts are a batch exactly when every text is well formed. -/
theorem evaluateEntries_readings (sources : List String) (bindings : Bindings) :
    (evaluateEntries (readings sources) bindings).1 =
      if sources.all Expression.isWellFormed then .ok (outcomes (formulas sources) bindings)
      else .error .unnamedEntry := by
  split
  · rename_i wellFormed
    have areFormulas : readings sources = (formulas sources).map .ok := by
      refine eq_map_ok_of_forall_isSome fun entry isEntry => ?_
      obtain ⟨source, isMember, rfl⟩ := List.mem_map.mp isEntry
      rw [isSome_read]
      exact List.all_eq_true.mp wellFormed source isMember
    rw [areFormulas, evaluateEntries_map_ok]
  · rename_i notAll
    rw [Bool.not_eq_true, List.all_eq_false] at notAll
    obtain ⟨source, isMember, malformed⟩ := notAll
    have isReading : Formula.read source none ∈ readings sources := List.mem_map_of_mem isMember
    rw [← isSome_read source none] at malformed
    cases isRead : Formula.read source none with
    | ok formula => simp [isRead, Except.toOption] at malformed
    | error error =>
        rw [isRead] at isReading
        exact evaluateEntries_of_mem_error isReading bindings

/-- The formulas among the readings stand under the well-formed texts. -/
theorem map_named_formulas (sources : List String) :
    (formulas sources).map named =
      (sources.filter Expression.isWellFormed).map fun source =>
        (source, Formula.read source none) := by
  induction sources with
  | nil => rfl
  | cons source rest inductionHypothesis =>
      have unfolded : formulas (source :: rest) =
          (Formula.read source none).toOption.toList ++ formulas rest := by
        rw [formulas, readings, List.map_cons, List.filterMap_cons]
        cases (Formula.read source none).toOption <;> rfl
      have isKept := isSome_read source none
      rw [unfolded, List.map_append, inductionHypothesis, List.filter_cons, ← isKept]
      cases isRead : Formula.read source none with
      | error error => rfl
      | ok formula =>
          have isNamed : Formula.read source (some source) = .ok formula := isRead
          have ownName : named formula = (source, Formula.read source none) := by
            rw [named, isRead, (Formula.name_of_read isNamed).1]
          exact congrArg (· :: _) ownName

theorem map_fst_named_formulas (sources : List String) :
    ((formulas sources).map named).map Prod.fst = sources.filter Expression.isWellFormed := by
  rw [map_named_formulas, List.map_map]
  exact List.map_id _

/-- A well-formed text has its outcome when it is given once, and else it is reported. -/
theorem get_outcomes_formulas (sources : List String) (bindings : Bindings) (source : String) :
    (outcomes (formulas sources) bindings).get? source =
      if source ∈ sources.filter Expression.isWellFormed then
        some (if 1 < sources.count source then .error (.duplicateName source)
          else Formula.outcomeAlone bindings source)
      else none := by
  rw [outcomes, get_finish, map_fst_named_formulas, map_named_formulas, List.lookup_map_pair]
  by_cases isGiven : source ∈ sources.filter Expression.isWellFormed
  · rw [List.count_filter (List.mem_filter.mp isGiven).2, if_pos isGiven, if_pos isGiven]
    split
    · rfl
    · rw [Option.map_some, Formula.outcome_read]
  · have never : (sources.filter Expression.isWellFormed).count source = 0 :=
      List.count_eq_zero.mpr isGiven
    rw [never, if_neg (by decide), if_neg isGiven, if_neg isGiven]
    rfl

end Batch

namespace Cache

/-- Every text is stored under itself. -/
def ofTexts (sources : List String) : Cache :=
  empty.storeAll (sources.map fun source => (source, source))

/-- The names are the texts in the order of first occurrence. -/
theorem names_ofTexts (sources : List String) : (ofTexts sources).names = sources.eraseDups := by
  induction sources using List.reverseRecOn with
  | nil => rfl
  | append_singleton earlier source inductionHypothesis =>
      have isLast : ofTexts (earlier ++ [source]) = (ofTexts earlier).store source source := by
        simp [ofTexts, storeAll]
      rw [isLast, names_store, inductionHypothesis, List.eraseDups_append_singleton]
      simp only [List.mem_eraseDups]

theorem inStep_ofTexts (sources : List String) : (ofTexts sources).InStep :=
  inStep_empty.storeAll _

/-- Every text is kept under itself. -/
theorem source_ofTexts (sources : List String) (source : String) :
    (ofTexts sources).source? source = if source ∈ sources then some source else none := by
  have found := List.lookup_map_pair (fun text : String => text) sources.reverse source
  rw [ofTexts, source_storeAll, ← List.map_reverse, found]
  simp only [List.mem_reverse]
  split <;> rfl

/-- The cache has the outcome of every text, and of malformed texts too. -/
theorem get_outcomes_ofTexts (sources : List String) (bindings : Bindings) (source : String) :
    ((ofTexts sources).outcomes bindings).get? source =
      if source ∈ sources then some (Formula.outcomeAlone bindings source) else none := by
  have isEntry := (inStep_ofTexts sources).entry_eq source
  unfold entry? at isEntry
  rw [source_ofTexts] at isEntry
  rw [outcomes_eq_mapEntries, OrderedMap.get_mapEntries, isEntry]
  split
  · exact congrArg some (Formula.outcome_read bindings source _)
  · rfl

/-- A cache of texts has an outcome for each distinct text in the order of first occurrence. -/
theorem keys_outcomes_ofTexts (sources : List String) (bindings : Bindings) :
    ((ofTexts sources).outcomes bindings).keys = sources.eraseDups := by
  rw [outcomes_eq_mapEntries, OrderedMap.keys_mapEntries, ← names_ofTexts]
  rfl

end Cache

namespace Batch

/-- The readings of texts are evaluated exactly when every text is well formed, and the formulas
among them are always evaluated. Each well-formed text has its outcome then, or the report of a
duplicate. A cache of any texts has the outcome of every text, which is its error when the text is
malformed. -/
theorem evaluateEntries_texts (sources : List String) (bindings : Bindings) :
    ((evaluateEntries (readings sources) bindings).1 =
      if sources.all Expression.isWellFormed then .ok (outcomes (formulas sources) bindings)
      else .error .unnamedEntry) ∧
    (evaluateEntries ((formulas sources).map .ok) bindings).1 =
      .ok (outcomes (formulas sources) bindings) ∧
    (outcomes (formulas sources) bindings).keys =
      (sources.filter Expression.isWellFormed).eraseDups ∧
    (∀ source, (outcomes (formulas sources) bindings).get? source =
      if source ∈ sources.filter Expression.isWellFormed then
        some (if 1 < sources.count source then .error (.duplicateName source)
          else Formula.outcomeAlone bindings source)
      else none) ∧
    ((Cache.ofTexts sources).outcomes bindings).keys = sources.eraseDups ∧
    ∀ source, ((Cache.ofTexts sources).outcomes bindings).get? source =
      if source ∈ sources then some (Formula.outcomeAlone bindings source) else none := by
  refine ⟨evaluateEntries_readings sources bindings, evaluateEntries_map_ok _ bindings, ?_,
    get_outcomes_formulas sources bindings, Cache.keys_outcomes_ofTexts sources bindings,
    Cache.get_outcomes_ofTexts sources bindings⟩
  rw [outcomes, keys_finish, map_fst_named_formulas]

/-- One malformed text leaves no outcomes at all, although its own outcome is an error. -/
theorem evaluateEntries_open_difference :
    Formula.outcomeAlone .empty "width -" =
        .error (.unreadable 7 "Expected number, identifier or '(', got end of input") ∧
      (evaluateEntries (readings ["12 / 4", "width -", "12 / 4"]) .empty).1 =
        .error .unnamedEntry := by
  refine ⟨by decide +kernel, ?_⟩
  have malformed : ["12 / 4", "width -", "12 / 4"].all Expression.isWellFormed = false := by
    decide +kernel
  rw [evaluateEntries_readings, malformed]
  rfl

end Batch

end Casework
