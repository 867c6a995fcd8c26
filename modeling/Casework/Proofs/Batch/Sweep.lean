import Casework.Batch
import Casework.ToMathlib.List.Basic
import Mathlib.Data.List.Nodup

namespace Casework.Batch

variable {bindings : Bindings}

/-- A sweep remembers every name it has met, the outcome of the first entry of each, and which
names it has met again. -/
structure Sweep.Remembers (sweep : Sweep) (bindings : Bindings)
    (taken : List (String × Formula.Entry)) : Prop where
  keys_eq : sweep.outcomes.keys = (taken.map Prod.fst).eraseDups
  get_eq : ∀ name, sweep.outcomes.get? name =
    (taken.lookup name).map (Formula.Entry.outcome bindings)
  mem_repeated_iff : ∀ name, name ∈ sweep.repeated ↔ 1 < (taken.map Prod.fst).count name

namespace Sweep

theorem remembers_start : start.Remembers bindings [] := by
  refine ⟨rfl, fun name => rfl, fun name => ?_⟩
  simp [start]

variable {sweep : Sweep} {taken : List (String × Formula.Entry)}

/-- The sweep knows a name once it has taken an entry under it. -/
theorem Remembers.contains_iff (remembers : sweep.Remembers bindings taken) (name : String) :
    sweep.outcomes.contains name = true ↔ name ∈ taken.map Prod.fst := by
  rw [OrderedMap.contains, remembers.keys_eq, List.contains_iff_mem, List.mem_eraseDups]

theorem count_append_singleton (taken : List (String × Formula.Entry))
    (next : String × Formula.Entry) (name : String) :
    ((taken ++ [next]).map Prod.fst).count name =
      (taken.map Prod.fst).count name + if name = next.1 then 1 else 0 := by
  rw [List.map_append, List.count_append]
  by_cases same : name = next.1
  · simp [same]
  · have other : ¬ next.1 = name := fun equal => same equal.symm
    simp [same, other]

/-- A name that comes again keeps its place and its outcome. -/
theorem Remembers.again (remembers : sweep.Remembers bindings taken)
    {next : String × Formula.Entry} (known : next.1 ∈ taken.map Prod.fst) :
    Remembers { sweep with repeated := sweep.repeated.insert next.1 } bindings
      (taken ++ [next]) := by
  refine ⟨?_, fun name => ?_, fun name => ?_⟩
  · rw [List.map_append, List.map_singleton, List.eraseDups_append_singleton, if_pos known]
    exact remembers.keys_eq
  · dsimp only
    rw [remembers.get_eq, List.lookup_append, List.lookup_cons_eq_ite,
      List.lookup_nil]
    by_cases same : name = next.1
    · obtain ⟨entry, found⟩ := Option.ne_none_iff_exists'.mp
        fun missing => List.lookup_eq_none_iff_notMem.mp missing (same ▸ known)
      rw [found, Option.some_or]
    · rw [if_neg same, Option.or_none]
  · have positive : 0 < (taken.map Prod.fst).count next.1 := List.count_pos_iff.mpr known
    dsimp only
    rw [List.mem_insert_iff, remembers.mem_repeated_iff, count_append_singleton]
    by_cases same : name = next.1
    · simp [same, positive]
    · simp [same]

/-- A new name comes last, with the outcome of its entry. -/
theorem Remembers.first (remembers : sweep.Remembers bindings taken)
    {next : String × Formula.Entry} (isNew : next.1 ∉ taken.map Prod.fst) (notes : Journal) :
    Remembers ⟨sweep.outcomes.insert next.1 (next.2.outcome bindings), sweep.repeated, notes⟩
      bindings (taken ++ [next]) := by
  refine ⟨?_, fun name => ?_, fun name => ?_⟩
  · rw [List.map_append, List.map_singleton, List.eraseDups_append_singleton, if_neg isNew,
      OrderedMap.keys_insert, remembers.keys_eq,
      if_neg fun isMember => isNew (List.mem_eraseDups.mp isMember)]
  · dsimp only
    rw [OrderedMap.get_insert, remembers.get_eq, List.lookup_append,
      List.lookup_cons_eq_ite, List.lookup_nil]
    by_cases same : name = next.1
    · rw [if_pos same, if_pos same, List.lookup_eq_none_iff_notMem.mpr (same ▸ isNew)]
      rfl
    · rw [if_neg same, if_neg same, Option.or_none]
  · have zero : (taken.map Prod.fst).count next.1 = 0 := List.count_eq_zero.mpr isNew
    dsimp only
    rw [remembers.mem_repeated_iff, count_append_singleton]
    by_cases same : name = next.1
    · simp [same, zero]
    · simp [same]

/-- A step remembers one more entry. -/
theorem Remembers.step (remembers : sweep.Remembers bindings taken)
    (next : String × Formula.Entry) :
    (sweep.step bindings next).Remembers bindings (taken ++ [next]) := by
  have known := remembers.contains_iff next.1
  unfold Sweep.step
  split
  · rename_i met
    exact remembers.again (known.mp met)
  · rename_i unmet
    exact remembers.first (fun isMember => unmet (known.mpr isMember)) _

end Sweep

/-- A sweep remembers all entries. -/
theorem remembers_sweep (entries : List (String × Formula.Entry)) (bindings : Bindings) :
    (sweep entries bindings).Remembers bindings entries := by
  have kept : ∀ (remaining taken : List (String × Formula.Entry)) (current : Sweep),
      current.Remembers bindings taken →
        (remaining.foldl (Sweep.step bindings) current).Remembers bindings
          (taken ++ remaining) := by
    intro remaining
    induction remaining with
    | nil =>
        intro taken current remembers
        rwa [List.append_nil]
    | cons next rest inductionHypothesis =>
        intro taken current remembers
        have all := inductionHypothesis (taken ++ [next]) _ (remembers.step next)
        rwa [List.append_assoc, List.singleton_append] at all
  exact kept entries [] .start Sweep.remembers_start

/-- The first entry of a name decides, unless the name has several entries. -/
theorem get_finish (entries : List (String × Formula.Entry)) (bindings : Bindings)
    (name : String) :
    (sweep entries bindings).finish.get? name =
      if 1 < (entries.map Prod.fst).count name then some (.error (.duplicateName name))
      else (entries.lookup name).map (Formula.Entry.outcome bindings) := by
  have remembers := remembers_sweep entries bindings
  have isDuplicate : name ∈ (sweep entries bindings).duplicates.reverse ↔
      1 < (entries.map Prod.fst).count name := by
    rw [List.mem_reverse, Sweep.duplicates, List.mem_mergeSort, remembers.mem_repeated_iff]
  rw [Sweep.finish, OrderedMap.get_insertAll, ← List.map_reverse, List.lookup_map_pair,
    remembers.get_eq]
  simp only [isDuplicate]
  split <;> rfl

/-- Reports of duplicates stand at the places of the first entries. -/
theorem keys_finish (entries : List (String × Formula.Entry)) (bindings : Bindings) :
    (sweep entries bindings).finish.keys = (entries.map Prod.fst).eraseDups := by
  have remembers := remembers_sweep entries bindings
  rw [← remembers.keys_eq]
  refine OrderedMap.keys_insertAll_of_forall_mem fun pair isReport => ?_
  obtain ⟨name, isRepeated, rfl⟩ := List.mem_map.mp isReport
  rw [Sweep.duplicates, List.mem_mergeSort, remembers.mem_repeated_iff] at isRepeated
  rw [remembers.keys_eq, List.mem_eraseDups]
  exact List.count_pos_iff.mp (Nat.lt_of_succ_lt isRepeated)

/-- The outcome of a name does not depend on the order of the entries. -/
theorem get_finish_of_perm {first second : List (String × Formula.Entry)}
    (permuted : first.Perm second) (bindings : Bindings) (name : String) :
    (sweep first bindings).finish.get? name = (sweep second bindings).finish.get? name := by
  rw [get_finish, get_finish, (permuted.map Prod.fst).count_eq name]
  split
  · rfl
  · rename_i atMostOnce
    rw [← (permuted.map Prod.fst).count_eq name] at atMostOnce
    rw [permuted.lookup_eq atMostOnce]

/-- Under distinct names every entry has its own outcome, and no duplicate is reported. -/
theorem finish_eq_mapEntries (table : OrderedMap String Formula.Entry) (bindings : Bindings) :
    (sweep table.entries bindings).finish =
      table.mapEntries fun _ entry => entry.outcome bindings := by
  refine OrderedMap.ext_of_get ?_ fun name => ?_
  · rw [keys_finish, List.eraseDups_of_nodup table.distinct, OrderedMap.keys_mapEntries]
    rfl
  · have atMostOnce : ¬ 1 < (table.entries.map Prod.fst).count name :=
      Nat.not_lt.mpr (List.nodup_iff_count.mp table.distinct name)
    rw [get_finish, if_neg atMostOnce, OrderedMap.get_mapEntries]
    rfl

@[simp]
theorem map_name_named (formulas : List Formula) :
    (formulas.map named).map Prod.fst = formulas.map Formula.name := by
  simp [named, Function.comp_def]

/-- The names of a list of formulas have their outcomes in the order of first occurrence. A name of
one formula has the outcome of that formula alone, and a name of several formulas is reported. A
permutation of the list permutes the outcomes. -/
theorem outcomes_isolated (formulas : List Formula) (bindings : Bindings) :
    (outcomes formulas bindings).keys = (formulas.map Formula.name).eraseDups ∧
    (∀ formula ∈ formulas, (formulas.map Formula.name).count formula.name = 1 →
      (outcomes formulas bindings).get? formula.name =
        some ((formula.evaluate bindings.get?).mapError Failure.problem)) ∧
    (∀ name, 2 ≤ (formulas.map Formula.name).count name →
      (outcomes formulas bindings).get? name = some (.error (.duplicateName name))) ∧
    ∀ permuted : List Formula, formulas.Perm permuted →
      (outcomes formulas bindings).entries.Perm (outcomes permuted bindings).entries := by
  refine ⟨?_, fun formula isMember once => ?_, fun name several => ?_,
    fun permuted isPermutation => ?_⟩
  · rw [outcomes, keys_finish, map_name_named]
  · have found : (formulas.map named).lookup (named formula).1 = some (.ok formula) :=
      List.lookup_of_count_eq_one (List.mem_map_of_mem isMember)
        (by rw [map_name_named]; exact once)
    have notSeveral : ¬ 1 < (formulas.map Formula.name).count formula.name := by omega
    rw [outcomes, get_finish, map_name_named, if_neg notSeveral]
    exact congrArg (Option.map (Formula.Entry.outcome bindings)) found
  · have isSeveral : 1 < (formulas.map Formula.name).count name := several
    rw [outcomes, get_finish, map_name_named, if_pos isSeveral]
  · have nodup (table : Outcomes) : table.entries.Nodup := List.Nodup.of_map _ table.distinct
    refine (List.perm_ext_iff_of_nodup (nodup _) (nodup _)).mpr fun pair => ?_
    rw [← OrderedMap.get_eq_some_iff, ← OrderedMap.get_eq_some_iff, outcomes, outcomes,
      get_finish_of_perm (isPermutation.map named) bindings pair.1]

end Casework.Batch
