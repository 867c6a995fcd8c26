import Casework.Cabinet.Form
import Casework.Cabinet.Template
import Casework.Proofs.Cache.Contents

namespace Casework

open Binary64

namespace Cache

/-- A text that is held keeps the count, and any other text is read once. -/
theorem readCount_store (cache : Cache) (name source : String) :
    (cache.store name source).readCount =
      cache.readCount + if cache.holds name source then 0 else 1 := by
  unfold store
  split <;> rfl

/-- Storing under one name does not change what is held under another. -/
theorem holds_store_of_ne (cache : Cache) (name source : String) {other : String}
    (different : other ≠ name) (text : String) :
    (cache.store name source).holds other text = cache.holds other text := by
  have sameText := source_store cache name source other
  rw [if_neg different] at sameText
  have sameEntry : entry? (cache.store name source) other = cache.entry? other := by
    unfold store
    split
    · rfl
    · exact (OrderedMap.get_insert cache.table name other _).trans (if_neg different)
  rw [holds, holds, sameText, sameEntry]

/-- Under distinct names, every text that is not held at the start is read once. -/
theorem readCount_storeAll {sources : List (String × String)}
    (distinct : (sources.map Prod.fst).Nodup) (cache : Cache) :
    (cache.storeAll sources).readCount =
      cache.readCount + sources.countP fun pair => !cache.holds pair.1 pair.2 := by
  induction sources generalizing cache with
  | nil => rfl
  | cons pair rest inductionHypothesis =>
      rw [List.map_cons, List.nodup_cons] at distinct
      -- The rest finds the cache as it was, since its names are other ones.
      have untouched : (rest.countP fun later =>
            !(cache.store pair.1 pair.2).holds later.1 later.2) =
          rest.countP fun later => !cache.holds later.1 later.2 := by
        refine List.countP_congr fun later isLater => ?_
        have different : later.1 ≠ pair.1 := fun same =>
          distinct.1 (same ▸ List.mem_map_of_mem isLater)
        rw [holds_store_of_ne cache pair.1 pair.2 different]
      have afterwards := inductionHypothesis distinct.2 (cache.store pair.1 pair.2)
      rw [untouched, readCount_store] at afterwards
      refine afterwards.trans ?_
      rw [List.countP_cons]
      cases cache.holds pair.1 pair.2 with
      | true => simp
      | false => simp [Nat.add_assoc, Nat.add_comm 1]

/-- An alignment reads the texts that the cache does not hold. -/
theorem readCount_align (cache : Cache) (template : Template) :
    (cache.align template).readCount =
      cache.readCount + template.sources.countP fun pair => !cache.holds pair.1 pair.2 :=
  readCount_storeAll template.nodup_sources cache

/-- Tables in step hold a text exactly when it is the text of its name. -/
theorem InStep.holds_iff {cache : Cache} (inStep : cache.InStep) (name source : String) :
    cache.holds name source = true ↔ cache.source? name = some source := by
  rw [holds, inStep.entry_eq, Option.isSome_map, Bool.and_eq_true, beq_iff_eq]
  refine and_iff_right_of_imp fun isText => ?_
  rw [isText]
  rfl

/-- An aligned cache holds every text of the template. -/
theorem InStep.holds_align {cache : Cache} (inStep : cache.InStep) {template : Template}
    {pair : String × String} (isMember : pair ∈ template.sources) :
    (cache.align template).holds pair.1 pair.2 = true := by
  rw [(inStep.align template).holds_iff, source?, OrderedMap.get?, entries_align]
  exact List.lookup_of_mem template.nodup_sources isMember

/-- A cache consists of its texts, its entries and its count. -/
theorem eq_of_parts {first second : Cache} (sameSources : first.sources = second.sources)
    (sameTable : first.table = second.table) (sameCount : first.readCount = second.readCount) :
    first = second := by
  cases first
  cases second
  cases sameSources
  cases sameTable
  cases sameCount
  rfl

/-- A second alignment with the same template reads nothing and changes nothing. -/
theorem InStep.align_align {cache : Cache} (inStep : cache.InStep) (template : Template) :
    (cache.align template).align template = cache.align template := by
  have nothingRead : ((cache.align template).align template).readCount =
      (cache.align template).readCount := by
    rw [readCount_align _ template, Nat.add_eq_left, List.countP_eq_zero]
    intro pair isMember
    simp [inStep.holds_align isMember]
  exact eq_of_parts (sources_align _ cache template)
    (table_align (inStep.align template) inStep template) nothingRead

end Cache

/-- The standard panels do not depend on the dimensions. -/
theorem Cabinet.template_resize {cabinet resized : Cabinet} {changes : List (String × Form)}
    (succeeds : cabinet.resize changes = .ok resized) : resized.template = cabinet.template := by
  obtain ⟨dimensions, _, rfl⟩ := Except.map_eq_ok_iff.mp succeeds
  rfl

/-- A session has one cabinet at a time and one cache for all its cut lists. -/
structure Session where
  cabinet : Cabinet
  cache : Cache

namespace Session

/-- These are the steps of a session. -/
inductive Step where
  | resize (changes : List (String × Form))
  | build (bindings : Bindings) (stock : Stock)

/-- A refused resize leaves the cabinet as it is. A cut list leaves its cache, also when the cut
list itself fails. -/
def Step.apply (session : Session) : Step → Session
  | .resize changes =>
    match session.cabinet.resize changes with
    | .ok resized => { session with cabinet := resized }
    | .error _ => session
  | .build bindings stock =>
    { session with
      cache := (CutList.ofCache session.cache session.cabinet.template bindings stock).2 }

/-- The steps are taken one after the other. -/
def after (session : Session) (steps : List Step) : Session := steps.foldl Step.apply session

/-- No step changes the standard panels. -/
theorem template_apply (session : Session) (step : Step) :
    (step.apply session).cabinet.template = session.cabinet.template := by
  cases step with
  | resize changes =>
      unfold Step.apply
      dsimp only
      split
      · rename_i resized succeeds
        exact Cabinet.template_resize succeeds
      · rfl
  | build bindings stock => rfl

/-- A resize does not touch the cache, and a cut list aligns it. -/
theorem cache_apply (session : Session) (step : Step) :
    (step.apply session).cache = session.cache ∨
      (step.apply session).cache = session.cache.align session.cabinet.template := by
  cases step with
  | resize changes =>
      left
      unfold Step.apply
      dsimp only
      split <;> rfl
  | build bindings stock =>
      right
      rfl

/-- The tables of a session stay in step. -/
theorem inStep_after {session : Session} (inStep : session.cache.InStep) (steps : List Step) :
    (session.after steps).cache.InStep := by
  induction steps generalizing session with
  | nil => exact inStep
  | cons step rest inductionHypothesis =>
      refine inductionHypothesis ?_
      rcases session.cache_apply step with same | aligned
      · rwa [same]
      · rw [aligned]
        exact inStep.align session.cabinet.template

/-- Once the cache is aligned with the cabinet, every later step leaves it as it is. -/
theorem cache_after {session : Session}
    (settled : session.cache.align session.cabinet.template = session.cache)
    (steps : List Step) : (session.after steps).cache = session.cache := by
  induction steps generalizing session with
  | nil => rfl
  | cons step rest inductionHypothesis =>
      have unchanged : (step.apply session).cache = session.cache := by
        rcases session.cache_apply step with same | aligned
        · exact same
        · rw [aligned, settled]
      have stillSettled : (step.apply session).cache.align (step.apply session).cabinet.template =
          (step.apply session).cache := by
        rw [template_apply, unchanged, settled]
      exact (inductionHypothesis stillSettled).trans unchanged

end Session

namespace Cache

/-- After every run of a cache, an alignment reads exactly the texts that the cache does not have
under their names, and a second alignment changes nothing. In every session that starts with such
a cache, nothing that follows a cut list changes the cache, so nothing is read again. -/
theorem run_readCount (operations : List Operation) :
    (∀ template : Template,
      ((run operations).align template).readCount = (run operations).readCount +
          template.sources.countP (fun pair => (run operations).source? pair.1 ≠ some pair.2) ∧
        ((run operations).align template).align template = (run operations).align template) ∧
    ∀ (cabinet : Cabinet) (earlier later : List Session.Step) (bindings : Bindings)
        (stock : Stock),
      let built := (Session.mk cabinet (run operations)).after
        (earlier ++ [.build bindings stock])
      (built.after later).cache = built.cache := by
  have inStep := inStep_run operations
  refine ⟨fun template => ⟨?_, inStep.align_align template⟩, ?_⟩
  · rw [readCount_align, Nat.add_left_cancel_iff]
    refine List.countP_congr fun pair _ => ?_
    have isHeld := inStep.holds_iff pair.1 pair.2
    simp [← isHeld]
  · intro cabinet earlier later bindings stock built
    have before : ((Session.mk cabinet (run operations)).after earlier).cache.InStep :=
      Session.inStep_after inStep earlier
    refine Session.cache_after ?_ later
    have isLast : built = Session.Step.apply ((Session.mk cabinet (run operations)).after earlier)
        (.build bindings stock) := by
      simp [built, Session.after]
    rw [isLast, Session.template_apply]
    exact before.align_align _

/-- A cache holds the width of the sides, another height of the back and the width of a door. An
alignment with a drawer unit reads the other fifteen of its sixteen texts. In a session with this
unit nothing is read after the first cut list, also when a resize comes in between. -/
theorem run_readCount_drawers :
    let side (millimetres : Nat) (onGrid : OnGrid (millimetres * unitsPerOne)) : Measure :=
      ⟨⟨false, millimetres * unitsPerOne, onGrid⟩, Int.natCast_nonneg _⟩
    let dimensions : Cabinet.Dimensions :=
      ⟨side 800 (by decide +kernel), side 480 (by decide +kernel), side 520 (by decide +kernel)⟩
    let cabinet : Cabinet :=
      ⟨"unit", .drawer, dimensions, .standard, .standard, 0, 3, 0, none⟩
    let operations : List Operation :=
      [.store "Side Panel.width" Part.carcassDepth, .store "Back Panel.height" "height",
        .store "Door.width" "width / 2"]
    let steps : List Session.Step := [.build .empty .standard]
    let built := (Session.mk cabinet (run operations)).after steps
    let wider : List Session.Step :=
      [.resize [("width", .integer 900)], .build .empty .standard]
    (run operations).readCount = 3 ∧ cabinet.template.sources.length = 16 ∧
      ((run operations).align cabinet.template).readCount = 18 ∧
      ((run operations).align cabinet.template).align cabinet.template =
        (run operations).align cabinet.template ∧
      (built.after wider).cache = built.cache ∧
      (built.after wider).cabinet ≠ cabinet := by
  intro side dimensions cabinet operations steps built wider
  obtain ⟨aligned, session⟩ := run_readCount operations
  obtain ⟨counted, settled⟩ := aligned cabinet.template
  have before : (run operations).readCount = 3 := by decide +kernel
  have missing : (cabinet.template.sources.countP fun pair =>
      (run operations).source? pair.1 ≠ some pair.2) = 15 := by decide +kernel
  rw [before, missing] at counted
  exact ⟨before, by decide +kernel, counted, settled, session cabinet [] wider .empty .standard,
    by decide +kernel⟩

end Cache

end Casework
