/-
This file defines tables that keep their keys in the order of first insertion.
-/

import Casework.ToMathlib.List.Lookup

namespace Casework

/-- A table is a list of pairs with distinct keys. -/
@[ext]
structure OrderedMap (Key Entry : Type) where
  entries : List (Key × Entry)
  distinct : (entries.map Prod.fst).Nodup

namespace OrderedMap

variable {Key Entry Image : Type}

def keys (table : OrderedMap Key Entry) : List Key := table.entries.map Prod.fst

def size (table : OrderedMap Key Entry) : Nat := table.entries.length

def empty : OrderedMap Key Entry := ⟨[], List.nodup_nil⟩

instance : Inhabited (OrderedMap Key Entry) := ⟨empty⟩

/-- The entries that satisfy the test keep their order. -/
def filter (table : OrderedMap Key Entry) (test : Key × Entry → Bool) : OrderedMap Key Entry :=
  ⟨table.entries.filter test, table.distinct.sublist (List.filter_sublist.map Prod.fst)⟩

/-- Every entry is replaced and the keys stay. -/
def mapEntries (table : OrderedMap Key Entry) (image : Key → Entry → Image) :
    OrderedMap Key Image :=
  ⟨table.entries.map fun pair => (pair.1, image pair.1 pair.2), by
    simpa [List.map_map, Function.comp_def] using table.distinct⟩

@[simp]
theorem keys_mapEntries (table : OrderedMap Key Entry) (image : Key → Entry → Image) :
    (table.mapEntries image).keys = table.keys := by
  simp [keys, mapEntries, Function.comp_def]

theorem keys_filter (test : Key → Bool) (table : OrderedMap Key Entry) :
    (table.filter fun pair => test pair.1).keys = table.keys.filter test := by
  simp [keys, filter, List.filter_map, Function.comp_def]

/-- Keys that a selection of entries keeps stay in their order. -/
theorem sublist_filterMap {entries : List (Key × Entry)}
    {image? : Key × Entry → Option (Key × Image)}
    (keepsKey : ∀ entry result, image? entry = some result → result.1 = entry.1) :
    ((entries.filterMap image?).map Prod.fst).Sublist (entries.map Prod.fst) := by
  induction entries with
  | nil => exact List.Sublist.slnil
  | cons entry rest inductionHypothesis =>
      rw [List.filterMap_cons, List.map_cons]
      cases found : image? entry with
      | none => exact inductionHypothesis.cons _
      | some result =>
          show (result.1 :: _).Sublist _
          rw [keepsKey entry result found]
          exact inductionHypothesis.cons_cons _

variable [DecidableEq Key]

/-- A list of pairs maps each key to the entry of its first pair. -/
abbrev lookup (entries : List (Key × Entry)) (key : Key) : Option Entry := entries.lookup key

def get? (table : OrderedMap Key Entry) (key : Key) : Option Entry := table.entries.lookup key

def contains (table : OrderedMap Key Entry) (key : Key) : Bool := table.keys.contains key

/-- The new entry takes the place of the old one under its key, or comes last. -/
def insertPairs (key : Key) (entry : Entry) : List (Key × Entry) → List (Key × Entry)
  | [] => [(key, entry)]
  | pair :: rest =>
    if pair.1 = key then (key, entry) :: rest else pair :: insertPairs key entry rest

theorem keys_insertPairs (key : Key) (entry : Entry) (entries : List (Key × Entry)) :
    (insertPairs key entry entries).map Prod.fst =
      if key ∈ entries.map Prod.fst then entries.map Prod.fst
      else entries.map Prod.fst ++ [key] := by
  induction entries with
  | nil => simp [insertPairs]
  | cons pair rest inductionHypothesis =>
      unfold insertPairs
      by_cases same : pair.1 = key
      · simp [same]
      · have other : ¬ key = pair.1 := fun equal => same equal.symm
        simp only [same, if_false, List.map_cons, inductionHypothesis, List.mem_cons, other,
          false_or]
        split <;> simp

def insert (table : OrderedMap Key Entry) (key : Key) (entry : Entry) : OrderedMap Key Entry :=
  ⟨insertPairs key entry table.entries, by
    rw [keys_insertPairs]
    split
    · exact table.distinct
    · rename_i absent
      rw [List.nodup_append]
      refine ⟨table.distinct, by simp, ?_⟩
      intro first firstIn second secondIn equal
      rw [List.mem_singleton] at secondIn
      subst equal secondIn
      exact absent firstIn⟩

def erase (table : OrderedMap Key Entry) (key : Key) : OrderedMap Key Entry :=
  table.filter fun pair => pair.1 != key

/-- The pairs are inserted one after the other. -/
def insertAll (table : OrderedMap Key Entry) (entries : List (Key × Entry)) :
    OrderedMap Key Entry :=
  entries.foldl (fun result pair => result.insert pair.1 pair.2) table

def ofList (entries : List (Key × Entry)) : OrderedMap Key Entry := empty.insertAll entries

/-- The entries of the given keys, in the order of the keys. -/
def select (table : OrderedMap Key Entry) (keys : List Key) : OrderedMap Key Entry :=
  ofList (keys.filterMap fun key => (table.get? key).map fun entry => (key, entry))

@[simp]
theorem get_empty (key : Key) : (empty : OrderedMap Key Entry).get? key = none := rfl

@[simp]
theorem keys_insert (table : OrderedMap Key Entry) (key : Key) (entry : Entry) :
    (table.insert key entry).keys =
      if key ∈ table.keys then table.keys else table.keys ++ [key] :=
  keys_insertPairs key entry table.entries

theorem lookup_insertPairs (key other : Key) (entry : Entry) (entries : List (Key × Entry)) :
    (insertPairs key entry entries).lookup other =
      if other = key then some entry else entries.lookup other := by
  induction entries with
  | nil => simp [insertPairs, List.lookup_cons_eq_ite]
  | cons pair rest inductionHypothesis =>
      unfold insertPairs
      by_cases found : pair.1 = key
      · rw [if_pos found, List.lookup_cons_eq_ite, List.lookup_cons_eq_ite, found]
        split <;> rfl
      · rw [if_neg found, List.lookup_cons_eq_ite, List.lookup_cons_eq_ite, inductionHypothesis]
        by_cases same : other = key
        · have here : other ≠ pair.1 := fun equal => found (equal.symm.trans same)
          rw [if_pos same, if_pos same, if_neg here]
        · rw [if_neg same, if_neg same]

/-- An inserted entry is found under its key, and every other key keeps its entry. -/
@[simp]
theorem get_insert (table : OrderedMap Key Entry) (key other : Key) (entry : Entry) :
    (table.insert key entry).get? other = if other = key then some entry else table.get? other :=
  lookup_insertPairs key other entry table.entries

/-- A table contains exactly the keys that have entries. -/
theorem contains_eq_isSome_get (table : OrderedMap Key Entry) (key : Key) :
    table.contains key = (table.get? key).isSome := by
  rw [Bool.eq_iff_iff, contains, List.contains_iff_mem, Option.isSome_iff_ne_none, ne_eq, get?,
    List.lookup_eq_none_iff_notMem, Decidable.not_not]
  rfl

/-- A new key comes last. -/
theorem insertPairs_of_notMem {key : Key} (entry : Entry) {entries : List (Key × Entry)}
    (isNew : key ∉ entries.map Prod.fst) :
    insertPairs key entry entries = entries ++ [(key, entry)] := by
  induction entries with
  | nil => rfl
  | cons pair rest inductionHypothesis =>
      simp only [List.map_cons, List.mem_cons, not_or] at isNew
      have other : ¬ pair.1 = key := fun equal => isNew.1 equal.symm
      simp [insertPairs, other, inductionHypothesis isNew.2]

theorem insertAll_entries (entries : List (Key × Entry)) (table : OrderedMap Key Entry)
    (distinct : ((table.entries ++ entries).map Prod.fst).Nodup) :
    (table.insertAll entries).entries = table.entries ++ entries := by
  induction entries generalizing table with
  | nil => simp [insertAll]
  | cons pair rest inductionHypothesis =>
      have isNew : pair.1 ∉ table.entries.map Prod.fst := by
        rw [List.map_append, List.nodup_append] at distinct
        intro isOld
        exact distinct.2.2 pair.1 isOld pair.1 (by simp) rfl
      have step : (table.insert pair.1 pair.2).entries = table.entries ++ [pair] :=
        insertPairs_of_notMem pair.2 isNew
      have next := inductionHypothesis (table.insert pair.1 pair.2) (by
        rw [step]
        simpa using distinct)
      rw [step] at next
      simpa [insertAll] using next

/-- A table is rebuilt from its own entries. -/
@[simp]
theorem ofList_entries (table : OrderedMap Key Entry) : ofList table.entries = table := by
  have same : (ofList table.entries).entries = table.entries :=
    insertAll_entries table.entries empty (by simpa [empty] using table.distinct)
  exact OrderedMap.ext same

@[simp]
theorem keys_erase (table : OrderedMap Key Entry) (key : Key) :
    (table.erase key).keys = table.keys.filter (· != key) := by
  rw [erase, keys_filter (· != key)]

/-- The entries stay whose keys satisfy the test. -/
theorem get_filter (table : OrderedMap Key Entry) (test : Key → Bool) (key : Key) :
    (table.filter fun pair => test pair.1).get? key =
      if test key then table.get? key else none := by
  unfold get? filter
  dsimp only
  induction table.entries with
  | nil => simp
  | cons pair rest inductionHypothesis =>
      rw [List.filter_cons, List.lookup_cons_eq_ite]
      by_cases here : key = pair.1
      · subst here
        by_cases stays : test pair.1 = true
        · rw [if_pos stays, if_pos stays, if_pos rfl, List.lookup_cons_eq_ite, if_pos rfl]
        · rw [if_neg stays, inductionHypothesis, if_neg stays, if_neg stays]
      · rw [if_neg here, ← inductionHypothesis]
        split
        · rw [List.lookup_cons_eq_ite, if_neg here]
        · rfl

@[simp]
theorem get_erase (table : OrderedMap Key Entry) (key other : Key) :
    (table.erase key).get? other = if other = key then none else table.get? other := by
  unfold erase
  rw [table.get_filter (· != key)]
  by_cases same : other = key <;> simp [same]

@[simp]
theorem get_mapEntries (table : OrderedMap Key Entry) (image : Key → Entry → Image) (key : Key) :
    (table.mapEntries image).get? key = (table.get? key).map (image key) := by
  unfold get? mapEntries
  dsimp only
  induction table.entries with
  | nil => rfl
  | cons pair rest inductionHypothesis =>
      rw [List.map_cons, List.lookup_cons_eq_ite, List.lookup_cons_eq_ite, inductionHypothesis]
      by_cases here : key = pair.1 <;> simp [here]

/-- An entry is replaced alike before and after its insertion. -/
@[simp]
theorem mapEntries_insert (table : OrderedMap Key Entry) (image : Key → Entry → Image) (key : Key)
    (entry : Entry) :
    (table.insert key entry).mapEntries image =
      (table.mapEntries image).insert key (image key entry) := by
  apply OrderedMap.ext
  change (insertPairs key entry table.entries).map (fun pair => (pair.1, image pair.1 pair.2)) =
    insertPairs key (image key entry) (table.entries.map fun pair => (pair.1, image pair.1 pair.2))
  induction table.entries with
  | nil => rfl
  | cons pair rest inductionHypothesis =>
      by_cases here : pair.1 = key
      · simp [insertPairs, here]
      · simpa [insertPairs, here] using inductionHypothesis

@[simp]
theorem mapEntries_erase (table : OrderedMap Key Entry) (image : Key → Entry → Image) (key : Key) :
    (table.erase key).mapEntries image = (table.mapEntries image).erase key := by
  apply OrderedMap.ext
  simp [erase, filter, mapEntries, List.filter_map, Function.comp_def]

theorem mapEntries_insertAll (entries : List (Key × Entry)) (image : Key → Entry → Image)
    (table : OrderedMap Key Entry) :
    (table.insertAll entries).mapEntries image =
      (table.mapEntries image).insertAll
        (entries.map fun pair => (pair.1, image pair.1 pair.2)) := by
  induction entries generalizing table with
  | nil => rfl
  | cons pair rest inductionHypothesis =>
      have step := inductionHypothesis (table.insert pair.1 pair.2)
      rw [mapEntries_insert] at step
      exact step

/-- The selected entries are replaced like all others. -/
theorem mapEntries_select (table : OrderedMap Key Entry) (image : Key → Entry → Image)
    (keys : List Key) :
    (table.select keys).mapEntries image = (table.mapEntries image).select keys := by
  have same : (keys.filterMap fun key => (table.get? key).map fun entry => (key, entry)).map
      (fun pair => (pair.1, image pair.1 pair.2)) =
        keys.filterMap fun key =>
          ((table.mapEntries image).get? key).map fun entry => (key, entry) := by
    simp [List.map_filterMap, Option.map_map, Function.comp_def]
  unfold select ofList
  rw [mapEntries_insertAll, same]
  rfl

/-- A table finds exactly its own entries. -/
theorem get_eq_some_iff (table : OrderedMap Key Entry) (key : Key) (entry : Entry) :
    table.get? key = some entry ↔ (key, entry) ∈ table.entries :=
  ⟨List.mem_of_lookup, List.lookup_of_mem table.distinct⟩

/-- The selection of distinct keys consists of their entries, in the order of the keys. -/
theorem select_entries {table : OrderedMap Key Entry} {entries : List (Key × Entry)}
    (distinct : (entries.map Prod.fst).Nodup)
    (found : ∀ pair ∈ entries, table.get? pair.1 = some pair.2) :
    (table.select (entries.map Prod.fst)).entries = entries := by
  have same : ((entries.map Prod.fst).filterMap fun key =>
      (table.get? key).map fun entry => (key, entry)) = entries := by
    clear distinct
    induction entries with
    | nil => rfl
    | cons pair rest inductionHypothesis =>
        rw [List.map_cons, List.filterMap_cons, found pair (by simp),
          inductionHypothesis fun other isMember => found other (by simp [isMember])]
        rfl
  unfold select ofList
  rw [same]
  exact insertAll_entries entries empty (by simpa [empty] using distinct)

/-- Of several pairs with one key the last one is found after their insertion. -/
theorem get_insertAll (entries : List (Key × Entry)) (table : OrderedMap Key Entry) (key : Key) :
    (table.insertAll entries).get? key = (entries.reverse.lookup key).or (table.get? key) := by
  induction entries generalizing table with
  | nil => rfl
  | cons pair rest inductionHypothesis =>
      have step := inductionHypothesis (table.insert pair.1 pair.2)
      rw [get_insert] at step
      rw [List.reverse_cons, List.lookup_append, List.lookup_cons_eq_ite, List.lookup_nil,
        Option.or_assoc]
      refine step.trans ?_
      split <;> rfl

/-- Pairs with known keys leave the keys as they are. -/
theorem keys_insertAll_of_forall_mem {entries : List (Key × Entry)}
    {table : OrderedMap Key Entry} (known : ∀ pair ∈ entries, pair.1 ∈ table.keys) :
    (table.insertAll entries).keys = table.keys := by
  induction entries generalizing table with
  | nil => rfl
  | cons pair rest inductionHypothesis =>
      have kept : (table.insert pair.1 pair.2).keys = table.keys := by
        rw [keys_insert, if_pos (known pair (by simp))]
      have step := @inductionHypothesis (table.insert pair.1 pair.2) fun other isMember => by
        rw [kept]
        exact known other (List.mem_cons_of_mem _ isMember)
      exact step.trans kept

theorem get_eq_none_iff (table : OrderedMap Key Entry) (key : Key) :
    table.get? key = none ↔ key ∉ table.keys :=
  List.lookup_eq_none_iff_notMem

/-- The entries of a table that is inserted are found before the old ones. -/
theorem get_insertAll_entries (table inserted : OrderedMap Key Entry) (key : Key) :
    (table.insertAll inserted.entries).get? key = (inserted.get? key).or (table.get? key) := by
  rw [get_insertAll, List.lookup_reverse inserted.distinct]
  rfl

theorem get_insertAll_entries_eq_some_iff (table inserted : OrderedMap Key Entry) (key : Key)
    (entry : Entry) :
    (table.insertAll inserted.entries).get? key = some entry ↔
      inserted.get? key = some entry ∨
        key ∉ inserted.keys ∧ table.get? key = some entry := by
  rw [get_insertAll_entries, Option.or_eq_some_iff, get_eq_none_iff]

theorem notMem_keys_insertAll_entries_iff (table inserted : OrderedMap Key Entry) (key : Key) :
    key ∉ (table.insertAll inserted.entries).keys ↔ key ∉ inserted.keys ∧ key ∉ table.keys := by
  rw [← get_eq_none_iff, get_insertAll_entries, Option.or_eq_none_iff, get_eq_none_iff,
    get_eq_none_iff]

/-- Known keys stay in their order, and new ones come after them in the order of the pairs. -/
theorem keys_insertAll {entries : List (Key × Entry)} (distinct : (entries.map Prod.fst).Nodup)
    (table : OrderedMap Key Entry) :
    (table.insertAll entries).keys =
      table.keys ++ (entries.map Prod.fst).filter fun key => key ∉ table.keys := by
  induction entries generalizing table with
  | nil => simp [insertAll]
  | cons pair rest inductionHypothesis =>
      rw [List.map_cons, List.nodup_cons] at distinct
      have step : (table.insertAll (pair :: rest)).keys = _ :=
        inductionHypothesis distinct.2 (table.insert pair.1 pair.2)
      rw [step, keys_insert, List.map_cons]
      by_cases known : pair.1 ∈ table.keys
      · simp [known]
      · -- the new key does not come again, so the others are filtered as before
        have others : ((rest.map Prod.fst).filter fun key => key ∉ table.keys ++ [pair.1]) =
            (rest.map Prod.fst).filter fun key => key ∉ table.keys := by
          refine List.filter_congr fun key isMember => ?_
          have different : key ≠ pair.1 := fun equal => distinct.1 (equal ▸ isMember)
          simp [different]
        rw [if_neg known, others, List.filter_cons_of_pos (by simpa using known),
          List.append_assoc, List.singleton_append]

/-- A table is its keys with what it finds under them. -/
theorem map_some_entries (table : OrderedMap Key Entry) :
    (table.entries.map fun pair => (pair.1, some pair.2)) =
      table.keys.map fun key => (key, table.get? key) := by
  rw [keys, List.map_map]
  refine List.map_congr_left fun pair isEntry => ?_
  rw [Function.comp_apply, (table.get_eq_some_iff pair.1 pair.2).mpr isEntry]

/-- Tables with the same keys in the same order are equal when they find the same entries. -/
theorem ext_of_get {first second : OrderedMap Key Entry} (sameKeys : first.keys = second.keys)
    (sameEntries : ∀ key, first.get? key = second.get? key) : first = second := by
  apply OrderedMap.ext
  have same : (first.entries.map fun pair => (pair.1, some pair.2)) =
      second.entries.map fun pair => (pair.1, some pair.2) := by
    rw [map_some_entries, map_some_entries, sameKeys]
    exact List.map_congr_left fun key _ => by rw [sameEntries key]
  refine (List.map_inj_right fun left right equal => ?_).mp same
  obtain ⟨sameKey, sameEntry⟩ := Prod.mk.inj equal
  exact Prod.ext sameKey (Option.some.inj sameEntry)

end OrderedMap

end Casework
