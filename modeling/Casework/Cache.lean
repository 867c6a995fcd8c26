import Casework.Batch
import Casework.Template.Basic

namespace Casework

/-- A cache keeps texts under qualified names in one table and what reading them has given in
another, and it counts how many texts it has read. -/
structure Cache where
  sources : OrderedMap String String
  table : OrderedMap String Formula.Entry
  readCount : Nat

namespace Cache

def empty : Cache := ⟨.empty, .empty, 0⟩

instance : Inhabited Cache := ⟨empty⟩

def names (cache : Cache) : List String := cache.table.keys

def entry? (cache : Cache) (name : String) : Option Formula.Entry := cache.table.get? name

def source? (cache : Cache) (name : String) : Option String := cache.sources.get? name

def entries (cache : Cache) : List (String × Formula.Entry) := cache.table.entries

/-- The cache has an entry under this name and keeps this text with it. -/
def holds (cache : Cache) (name source : String) : Bool :=
  (cache.entry? name).isSome && cache.source? name == some source

/-- A text is read only when the cache does not hold it. -/
def store (cache : Cache) (name source : String) : Cache :=
  if cache.holds name source then cache
  else ⟨cache.sources.insert name source,
    cache.table.insert name (Formula.read source (some name)), cache.readCount + 1⟩

def storeAll (cache : Cache) (sources : List (String × String)) : Cache :=
  sources.foldl (fun current pair => current.store pair.1 pair.2) cache

/-- Only the given names stay, in the given order. -/
def keepOnly (cache : Cache) (names : List String) : Cache :=
  { cache with sources := cache.sources.select names, table := cache.table.select names }

/-- The cache takes the texts of a template, in their order, and drops all others. -/
def align (cache : Cache) (template : Template) : Cache :=
  (cache.storeAll template.sources).keepOnly (template.sources.map Prod.fst)

def ofTemplate (template : Template) : Cache := empty.align template

def erase (cache : Cache) (name : String) : Cache :=
  { cache with sources := cache.sources.erase name, table := cache.table.erase name }

/-- These are the names whose texts have errors. -/
def errors (cache : Cache) : List (String × SyntaxError) :=
  cache.entries.filterMap fun pair =>
    match pair.2 with
    | .ok _ => none
    | .error error => some (pair.1, error)

/-- The entries of the cache are evaluated like those of a batch. -/
def outcomes (cache : Cache) (bindings : Bindings) : Outcomes :=
  (Batch.sweep cache.table.entries bindings).finish

/-- Reading a text is noted. A text that is held already is not read. -/
def storeNotes (cache : Cache) (name source : String) : Journal :=
  if cache.holds name source then []
  else
    let entry := Formula.read source (some name)
    entry.readingNotes name source ++
      [⟨.debug, "Parsed formula " ++ name ++ ": " ++
        if entry.toOption.isSome then "ok" else "error"⟩]

def storeAllNotes (cache : Cache) : List (String × String) → Journal
  | [] => []
  | (name, source) :: rest =>
    cache.storeNotes name source ++ (cache.store name source).storeAllNotes rest

def alignNotes (cache : Cache) (template : Template) : Journal :=
  cache.storeAllNotes template.sources

def outcomesNotes (cache : Cache) (bindings : Bindings) : Journal :=
  (Batch.sweep cache.table.entries bindings).journal

/-- A stored text is found under its name, and every other name keeps its text. -/
@[simp]
theorem source_store (cache : Cache) (name source other : String) :
    (cache.store name source).source? other =
      if other = name then some source else cache.source? other := by
  unfold store
  split
  · rename_i held
    simp only [holds, Bool.and_eq_true, beq_iff_eq] at held
    by_cases same : other = name
    · rw [if_pos same, same, held.2]
    · rw [if_neg same]
  · exact OrderedMap.get_insert cache.sources name other source

end Cache

namespace Template

/-- Every formula text of a template has its outcome under the binding set. -/
def outcomes (template : Template) (bindings : Bindings) : Outcomes :=
  (Cache.ofTemplate template).outcomes bindings

def outcomesNotes (template : Template) (bindings : Bindings) : Journal :=
  Cache.empty.alignNotes template ++ (Cache.ofTemplate template).outcomesNotes bindings

end Template

end Casework
