import Casework.Proofs.Cache.History
import Casework.ToMathlib.Except

namespace Casework.Cache

/-- The texts of a history form a partial function from names. A template replaces all of them. -/
def Operation.revise (texts : String → Option String) : Operation → String → Option String
  | .store name source => fun other => if other = name then some source else texts other
  | .align template => OrderedMap.lookup template.sources
  | .erase name => fun other => if other = name then none else texts other
  | .evaluate _ => texts

/-- This is the text that was stored last under a name and has not been dropped since. -/
def lastText? (operations : List Operation) : String → Option String :=
  operations.foldl Operation.revise fun _ => none

/-- An operation changes the texts of a cache like those of the history. -/
theorem source_apply (cache : Cache) (operation : Operation) :
    (operation.apply cache).source? = operation.revise cache.source? := by
  cases operation with
  | store name source =>
      funext other
      exact source_store cache name source other
  | align template =>
      funext name
      exact congrArg (List.lookup name) (entries_align cache template)
  | erase name =>
      funext other
      exact OrderedMap.get_erase cache.sources name other
  | evaluate bindings => rfl

/-- After every run a cache has the last texts of the history. -/
theorem source_run (operations : List Operation) :
    (run operations).source? = lastText? operations := by
  have kept : ∀ (remaining : List Operation) (cache : Cache),
      (remaining.foldl Operation.apply cache).source? =
        remaining.foldl Operation.revise cache.source? := by
    intro remaining
    induction remaining with
    | nil => exact fun cache => rfl
    | cons operation rest inductionHypothesis =>
        intro cache
        rw [List.foldl_cons, inductionHypothesis, source_apply]
        rfl
  exact kept operations empty

/-- Every entry is the reading of the text under its name. -/
theorem InStep.entry_eq {cache : Cache} (inStep : cache.InStep) (name : String) :
    cache.entry? name =
      (cache.source? name).map fun source => Formula.read source (some name) := by
  unfold entry? source?
  rw [inStep, OrderedMap.get_mapEntries]

/-- A formula stands under its own name, with the text that it was read from. -/
theorem InStep.name_of_entry {cache : Cache} (inStep : cache.InStep) {name : String}
    {formula : Formula} (isEntry : cache.entry? name = some (.ok formula)) :
    formula.name = name ∧ cache.source? name = some formula.source := by
  rw [inStep.entry_eq, Option.map_eq_some_iff] at isEntry
  obtain ⟨source, isText, isRead⟩ := isEntry
  obtain ⟨sameName, sameSource⟩ := Formula.name_of_read isRead
  exact ⟨sameName, by rw [sameSource, isText]⟩

theorem read_eq_error_iff {source name : String} {error : SyntaxError} :
    Formula.read source (some name) = .error error ↔ Expression.parse source = .error error :=
  Except.map_eq_error_iff

/-- The errors are those of the entries, each under its name. -/
theorem mem_errors_iff (cache : Cache) (name : String) (error : SyntaxError) :
    (name, error) ∈ cache.errors ↔ cache.entry? name = some (.error error) := by
  unfold entry? errors entries
  rw [OrderedMap.get_eq_some_iff, List.mem_filterMap]
  constructor
  · rintro ⟨⟨other, entry⟩, isEntry, equal⟩
    cases entry with
    | ok formula => contradiction
    | error found =>
        cases equal
        exact isEntry
  · intro isEntry
    exact ⟨(name, .error error), isEntry, rfl⟩

/-- The names of the errors keep the order of all names. -/
theorem errors_sublist (cache : Cache) : (cache.errors.map Prod.fst).Sublist cache.names := by
  unfold errors names entries OrderedMap.keys
  induction cache.table.entries with
  | nil => exact List.Sublist.slnil
  | cons pair rest inductionHypothesis =>
      obtain ⟨name, entry⟩ := pair
      cases entry with
      | ok formula => exact inductionHypothesis.cons name
      | error error => exact inductionHypothesis.cons_cons name

/-- A known name keeps its place, and a new name comes last. -/
theorem names_store (cache : Cache) (name source : String) :
    (cache.store name source).names =
      if name ∈ cache.names then cache.names else cache.names ++ [name] := by
  unfold store
  split
  · rename_i held
    have isKnown : name ∈ cache.names := by
      simp only [holds, Bool.and_eq_true] at held
      have contained := OrderedMap.contains_eq_isSome_get cache.table name
      rw [show (cache.table.get? name).isSome = true from held.1] at contained
      exact List.contains_iff_mem.mp contained
    rw [if_pos isKnown]
  · exact OrderedMap.keys_insert cache.table name _

/-- An aligned cache whose tables are in step has the names of the template. -/
theorem InStep.names_align {cache : Cache} (inStep : cache.InStep) (template : Template) :
    (cache.align template).names = template.sources.map Prod.fst := by
  have sameKeys : (cache.align template).names = (cache.align template).sources.keys :=
    (inStep.align template).keys_eq
  rw [sameKeys, OrderedMap.keys, entries_align]

/-- What a cache holds agrees with the history that led to it. -/
structure Agrees (cache : Cache) (operations : List Operation) : Prop where
  sameNames : cache.sources.keys = cache.names
  isLast : ∀ name, cache.source? name = lastText? operations name
  isReading : ∀ name, cache.entry? name =
    (lastText? operations name).map fun source => Formula.read source (some name)
  ownName : ∀ name formula, cache.entry? name = some (.ok formula) → formula.name = name
  errorsExact : ∀ name error, (name, error) ∈ cache.errors ↔
    ∃ source, lastText? operations name = some source ∧ Expression.parse source = .error error
  errorsOrdered : (cache.errors.map Prod.fst).Sublist cache.names

/-- The invariant of all runs, with the history spelled out. -/
theorem agrees_run (operations : List Operation) : Agrees (run operations) operations := by
  have inStep := inStep_run operations
  have isLast := congrFun (source_run operations)
  have isReading : ∀ name, entry? (run operations) name =
      (lastText? operations name).map fun source => Formula.read source (some name) := by
    intro name
    rw [inStep.entry_eq, isLast]
  refine ⟨inStep.keys_eq.symm, isLast, isReading, fun name formula isEntry =>
    (inStep.name_of_entry isEntry).1, fun name error => ?_, errors_sublist _⟩
  rw [mem_errors_iff, isReading, Option.map_eq_some_iff]
  simp only [read_eq_error_iff]

theorem run_append (earlier later : List Operation) :
    run (earlier ++ later) = later.foldl Operation.apply (run earlier) :=
  List.foldl_append

/-- After every run the cache agrees with the history. From there on an entry stays while the last
text under its name does, an evaluation changes nothing, a stored name keeps its place or comes
last when it is new, and an alignment leaves the names of the template in their order. -/
theorem run_contents (operations : List Operation) :
    Agrees (run operations) operations ∧
    (∀ later name, lastText? (operations ++ later) name = lastText? operations name →
      entry? (run (operations ++ later)) name = entry? (run operations) name) ∧
    (∀ bindings, run (operations ++ [.evaluate bindings]) = run operations) ∧
    (∀ name source, (run (operations ++ [.store name source])).names =
      if name ∈ (run operations).names then (run operations).names
      else (run operations).names ++ [name]) ∧
    ∀ template, (run (operations ++ [.align template])).names =
      template.sources.map Prod.fst := by
  refine ⟨agrees_run operations, fun later name same => ?_, fun bindings => ?_,
    fun name source => ?_, fun template => ?_⟩
  · rw [(agrees_run _).isReading, (agrees_run _).isReading, same]
  · rw [run_append]
    rfl
  · rw [run_append]
    exact names_store _ name source
  · rw [run_append]
    exact (inStep_run operations).names_align template

end Casework.Cache
