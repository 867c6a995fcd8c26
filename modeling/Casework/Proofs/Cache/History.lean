import Casework.CutList
import Casework.Proofs.Template.Naming

namespace Casework.Cache

/-- These are the operations on a cache. -/
inductive Operation where
  | store (name source : String)
  | align (template : Template)
  | erase (name : String)
  | evaluate (bindings : Bindings)

/-- An operation leaves a cache. An evaluation leaves the cache that it reads. -/
def Operation.apply (cache : Cache) : Operation → Cache
  | .store name source => cache.store name source
  | .align template => cache.align template
  | .erase name => cache.erase name
  | .evaluate _ => cache

/-- The operations are applied one after the other to the empty cache. -/
def run (operations : List Operation) : Cache := operations.foldl Operation.apply empty

/-- Every text of the cache has the entry that reading it gives, and there are no other entries. -/
def InStep (cache : Cache) : Prop :=
  cache.table = cache.sources.mapEntries fun name source => Formula.read source (some name)

theorem inStep_empty : InStep empty := rfl

/-- Storing a text keeps the tables in step. -/
theorem InStep.store {cache : Cache} (inStep : cache.InStep) (name source : String) :
    (cache.store name source).InStep := by
  unfold Cache.store
  split
  · exact inStep
  · show cache.table.insert name _ = (cache.sources.insert name source).mapEntries _
    rw [OrderedMap.mapEntries_insert, inStep]

theorem InStep.storeAll {cache : Cache} (inStep : cache.InStep) (sources : List (String × String)) :
    (cache.storeAll sources).InStep := by
  induction sources generalizing cache with
  | nil => exact inStep
  | cons pair rest inductionHypothesis => exact inductionHypothesis (inStep.store pair.1 pair.2)

/-- Dropping names keeps the tables in step. -/
theorem InStep.keepOnly {cache : Cache} (inStep : cache.InStep) (names : List String) :
    (cache.keepOnly names).InStep := by
  show cache.table.select names = (cache.sources.select names).mapEntries _
  rw [OrderedMap.mapEntries_select, inStep]

theorem InStep.align {cache : Cache} (inStep : cache.InStep) (template : Template) :
    (cache.align template).InStep :=
  (inStep.storeAll template.sources).keepOnly _

theorem InStep.erase {cache : Cache} (inStep : cache.InStep) (name : String) :
    (cache.erase name).InStep := by
  show cache.table.erase name = (cache.sources.erase name).mapEntries _
  rw [OrderedMap.mapEntries_erase, inStep]

/-- Every operation keeps the tables in step. -/
theorem InStep.apply {cache : Cache} (inStep : cache.InStep) (operation : Operation) :
    (operation.apply cache).InStep := by
  cases operation with
  | store name source => exact inStep.store name source
  | align template => exact inStep.align template
  | erase name => exact inStep.erase name
  | evaluate bindings => exact inStep

/-- The tables are in step after every run. -/
theorem inStep_run (operations : List Operation) : (run operations).InStep := by
  have kept : ∀ (remaining : List Operation) (cache : Cache), cache.InStep →
      (remaining.foldl Operation.apply cache).InStep := by
    intro remaining
    induction remaining with
    | nil => exact fun cache inStep => inStep
    | cons operation rest inductionHypothesis =>
        exact fun cache inStep => inductionHypothesis _ (inStep.apply operation)
  exact kept operations empty inStep_empty

/-- A name has a text exactly when it has an entry, and the names of both have one order. -/
theorem InStep.keys_eq {cache : Cache} (inStep : cache.InStep) :
    cache.table.keys = cache.sources.keys := by
  rw [inStep, OrderedMap.keys_mapEntries]

/-- The last text that is stored under a name stays, and every other name keeps its text. -/
theorem source_storeAll (cache : Cache) (sources : List (String × String)) (name : String) :
    (cache.storeAll sources).source? name =
      (sources.reverse.lookup name).or (cache.source? name) := by
  induction sources generalizing cache with
  | nil => rfl
  | cons pair rest inductionHypothesis =>
      have after := inductionHypothesis (cache.store pair.1 pair.2)
      rw [source_store] at after
      rw [List.reverse_cons, List.lookup_append, List.lookup_cons_eq_ite, List.lookup_nil,
        Option.or_assoc]
      refine after.trans ?_
      split <;> rfl

/-- An aligned cache has exactly the texts of the template, in their order. -/
theorem entries_align (cache : Cache) (template : Template) :
    (cache.align template).sources.entries = template.sources := by
  apply OrderedMap.select_entries template.nodup_sources
  intro pair isMember
  have distinct : (template.sources.reverse.map Prod.fst).Nodup := by
    rw [List.map_reverse, List.nodup_reverse]
    exact template.nodup_sources
  have stored : (cache.storeAll template.sources).source? pair.1 = some pair.2 := by
    rw [source_storeAll, List.lookup_of_mem distinct (List.mem_reverse.mpr isMember)]
    rfl
  exact stored

/-- Aligned caches have the same texts. -/
theorem sources_align (first second : Cache) (template : Template) :
    (first.align template).sources = (second.align template).sources :=
  OrderedMap.ext ((entries_align first template).trans (entries_align second template).symm)

/-- Aligned caches whose tables are in step have the same entries. -/
theorem table_align {first second : Cache} (firstInStep : first.InStep)
    (secondInStep : second.InStep) (template : Template) :
    (first.align template).table = (second.align template).table := by
  rw [firstInStep.align template, secondInStep.align template,
    sources_align first second template]

/-- After any run, an aligned cache evaluates to the outcomes of the template alone, and the cut
list from the cache is that of the template alone. -/
theorem run_align (operations : List Operation) (template : Template) (bindings : Bindings)
    (stock : Stock) :
    ((run operations).align template).outcomes bindings = template.outcomes bindings ∧
      (CutList.ofCache (run operations) template bindings stock).1 =
        CutList.ofTemplate template bindings stock := by
  have same : ((run operations).align template).outcomes bindings = template.outcomes bindings := by
    have tables := table_align (inStep_run operations) inStep_empty template
    rw [Template.outcomes, ofTemplate, outcomes, outcomes, tables]
  refine ⟨same, ?_⟩
  show CutList.ofOutcomes template _ bindings stock = CutList.ofOutcomes template _ bindings stock
  rw [same]

end Casework.Cache
