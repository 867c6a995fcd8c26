import Casework.Binary64.Bits
import Casework.Proofs.Bindings.Editing
import Mathlib.Data.List.Induction

namespace Casework.Bindings

/-- A step creates a binding set from a form or from pairs, or edits the current one. -/
inductive Step where
  | create (form : Form)
  | of (pairs : OrderedMap String Form)
  | edit (change : Edit)

namespace Step

def result (current : Bindings) : Step → Except FormError Bindings
  | .create form => ofForm form
  | .of pairs => ofPairs pairs.entries
  | .edit change => change.apply current

/-- A step that fails leaves the current binding set. -/
def apply (current : Bindings) (step : Step) : Bindings :=
  match step.result current with
  | .ok next => next
  | .error _ => current

/-- These are the names and forms that a step brings. -/
def pairs : Step → List (String × Form)
  | .create (.record fields) => fields
  | .create _ => []
  | .of pairs => pairs.entries
  | .edit (.update changes) => changes.entries
  | .edit (.without _) => []

end Step

/-- The steps are taken one after the other from the empty binding set. -/
def run (steps : List Step) : Bindings := steps.foldl Step.apply .empty

variable {bindings current next : Bindings} {steps : List Step} {step : Step} {name : String}
  {value : Value}

theorem run_append (steps : List Step) (step : Step) :
    run (steps ++ [step]) = step.apply (run steps) := by
  simp [run]

/-- A bound value stands in one of the pairs, also when several pairs have its name. -/
theorem exists_form_of_get {pairs : List (String × Form)} (isOk : ofPairs pairs = .ok bindings)
    (isBound : bindings.get? name = some value) :
    ∃ form, (name, form) ∈ pairs ∧ Denotes form value := by
  obtain ⟨values, reads, isTable⟩ := exists_values_of_ofPairs isOk
  have isValue : (name, value) ∈ values := by
    rw [get?, isTable] at isBound
    have found := (OrderedMap.get_insertAll values .empty name).symm.trans isBound
    rw [OrderedMap.get_empty, Option.or_none] at found
    exact List.mem_reverse.mp (List.mem_of_lookup found)
  obtain ⟨place, inside, isThere⟩ := List.mem_iff_getElem.mp isValue
  have alsoInside : place < pairs.length := reads.length_eq ▸ inside
  have isRead : Reads pairs[place] values[place] := reads.get alsoInside inside
  rw [isThere] at isRead
  obtain ⟨sameName, isRead⟩ := isRead
  refine ⟨pairs[place].2, ?_, readEntry_eq_ok_iff.mp isRead⟩
  rw [show name = pairs[place].1 from sameName]
  exact List.getElem_mem alsoInside

/-- What is bound after a step was bound before it or is brought by it. -/
theorem get_or_exists_form_of_result (isOk : step.result current = .ok next)
    (isBound : next.get? name = some value) :
    current.get? name = some value ∨ ∃ form, (name, form) ∈ step.pairs ∧ Denotes form value := by
  cases step with
  | create form =>
      cases form with
      | record fields => exact .inr (exists_form_of_get isOk isBound)
      | absent | flag | integer | real | text | list => contradiction
  | of pairs => exact .inr (exists_form_of_get isOk isBound)
  | edit change =>
      cases change with
      | update changes =>
          by_cases isChanged : name ∈ changes.keys
          · obtain ⟨pair, isPair, rfl⟩ := List.mem_map.mp isChanged
            have isChange := (changes.get_eq_some_iff pair.1 pair.2).mpr isPair
            obtain ⟨found, isDenoted, isFound⟩ := get_update_of_changed isOk isChange
            obtain rfl := Option.some.inj (isFound.symm.trans isBound)
            exact .inr ⟨pair.2, isPair, isDenoted⟩
          · exact .inl (get_update_of_notMem isOk isChanged ▸ isBound)
      | without removed =>
          cases isOk
          rw [get_without] at isBound
          split at isBound
          · contradiction
          · exact .inl isBound

/-- Every bound value was brought by a step of the run. -/
theorem exists_step_of_get_run (isBound : (run steps).get? name = some value) :
    ∃ step ∈ steps, ∃ form, (name, form) ∈ step.pairs ∧ Denotes form value := by
  induction steps using List.reverseRecOn with
  | nil => contradiction
  | append_singleton earlier step inductionHypothesis =>
      rw [run_append, Step.apply] at isBound
      -- a name that the last step does not bring was bound by the steps before it
      have fromEarlier (isOld : (run earlier).get? name = some value) :
          ∃ step' ∈ earlier ++ [step], ∃ form,
            (name, form) ∈ step'.pairs ∧ Denotes form value := by
        obtain ⟨source, isEarlier, isSource⟩ := inductionHypothesis isOld
        exact ⟨source, List.mem_append_left _ isEarlier, isSource⟩
      split at isBound
      · rename_i next isOk
        rcases get_or_exists_form_of_result isOk isBound with isOld | isNew
        · exact fromEarlier isOld
        · exact ⟨step, by simp, isNew⟩
      · exact fromEarlier isBound

/-- A bound value has the kind that the list of its name implies. -/
theorem kind_cases (isBound : bindings.get? name = some value) :
    (name ∈ Parameter.numbers ∧ ∃ number, value = .number number) ∨
      (name ∈ Parameter.flags ∧ ∃ flag, value = .boolean flag) := by
  have isCanonical : (name, value.kind) ∈ Parameter.canonical :=
    List.mem_of_lookup (kind_of_get isBound)
  rcases List.mem_append.mp isCanonical with isNumber | isFlag
  · obtain ⟨_, isListed, same⟩ := List.mem_map.mp isNumber
    obtain ⟨rfl, isKind⟩ := Prod.mk.inj same
    refine .inl ⟨isListed, ?_⟩
    cases value with
    | number number => exact ⟨number, rfl⟩
    | boolean flag => contradiction
  · obtain ⟨_, isListed, same⟩ := List.mem_map.mp isFlag
    obtain ⟨rfl, isKind⟩ := Prod.mk.inj same
    refine .inr ⟨isListed, ?_⟩
    cases value with
    | number number => contradiction
    | boolean flag => exact ⟨flag, rfl⟩

/-- After any run every bound name is canonical, its value has its kind, a bound number has the bit
pattern of a finite one, and some step brought it. A step that fails leaves the binding set. Pairs
and changes are bound exactly when they are acceptable. A change gives every changed name its new
value, leaves all other names as they are, and puts the new names after the old ones. -/
theorem run_sound (steps : List Step) :
    (∀ name value, (run steps).get? name = some value →
      ((name ∈ Parameter.numbers ∧ ∃ number, value = .number number ∧
          Binary64.bitsOfCount number.count < Binary64.infinityBits) ∨
        (name ∈ Parameter.flags ∧ ∃ flag, value = .boolean flag)) ∧
      ∃ step ∈ steps, ∃ form, (name, form) ∈ step.pairs ∧ Denotes form value) ∧
    (∀ step error, step.result (run steps) = .error error →
      run (steps ++ [step]) = run steps) ∧
    (∀ step next, step.result (run steps) = .ok next → run (steps ++ [step]) = next) ∧
    (∀ pairs : OrderedMap String Form,
      (∃ created, (Step.of pairs).result (run steps) = .ok created) ↔ Acceptable pairs) ∧
    ∀ changes : OrderedMap String Form,
      ((∃ next, (Step.edit (.update changes)).result (run steps) = .ok next) ↔
        Acceptable changes) ∧
      ∀ next, (Step.edit (.update changes)).result (run steps) = .ok next →
        (∀ name form, changes.get? name = some form →
          ∃ value, Denotes form value ∧ next.get? name = some value) ∧
        (∀ name, name ∉ changes.keys → next.get? name = (run steps).get? name) ∧
        next.names = (run steps).names ++
          changes.keys.filter fun name => name ∉ (run steps).names := by
  refine ⟨fun name value isBound => ⟨?_, exists_step_of_get_run isBound⟩, ?_, ?_,
    fun pairs => exists_ofPairs_iff, fun changes => ⟨exists_update_iff, fun next isOk =>
      ⟨fun name form => get_update_of_changed isOk, fun name => get_update_of_notMem isOk,
        names_update isOk⟩⟩⟩
  · rcases kind_cases isBound with ⟨isNumber, number, rfl⟩ | ⟨isFlag, flag, rfl⟩
    · exact .inl ⟨isNumber, number, rfl, Binary64.bitsOfCount_lt number.onGrid⟩
    · exact .inr ⟨isFlag, flag, rfl⟩
  · intro step error fails
    rw [run_append, Step.apply, fails]
  · intro step next isOk
    rw [run_append, Step.apply, isOk]

/-- A run that binds a width and a flag refuses glass, and an update leaves the flag, revises the
width and puts the height last. -/
theorem run_sound_update :
    let steps : List Step := [.of ⟨[("width", .integer 600), ("hasBack", .flag true)], by simp⟩]
    let glass : OrderedMap String Form := ⟨[("glass", .integer 1)], by simp⟩
    let changes : OrderedMap String Form :=
      ⟨[("height", .integer 720), ("width", .integer 900)], by simp⟩
    (∃ step ∈ steps, ∃ form, ("hasBack", form) ∈ step.pairs ∧ Denotes form (.boolean true)) ∧
      ¬ Acceptable glass ∧ run (steps ++ [.of glass]) = run steps ∧
      Acceptable changes ∧ ∃ next, run (steps ++ [.edit (.update changes)]) = next ∧
        (∃ value, Denotes (.integer 900) value ∧ next.get? "width" = some value) ∧
        next.get? "hasBack" = some (.boolean true) ∧
        next.names = ["width", "hasBack", "height"] := by
  intro steps glass changes
  obtain ⟨brought, kept, taken, ofIff, updated⟩ := run_sound steps
  obtain ⟨acceptableIff, revised⟩ := updated changes
  have isFlag : (run steps).get? "hasBack" = some (.boolean true) := by decide +kernel
  have refuses : ((Step.of glass).result (run steps)).toOption.isNone = true := by decide +kernel
  have accepts : ((Step.edit (.update changes)).result (run steps)).toOption.isSome = true := by
    decide +kernel
  obtain ⟨error, isError⟩ := Except.isNone_toOption_iff.mp refuses
  obtain ⟨next, isOk⟩ := Except.isSome_toOption_iff.mp accepts
  obtain ⟨isChanged, isKept, areNames⟩ := revised next isOk
  have sameFlag : next.get? "hasBack" = (run steps).get? "hasBack" :=
    isKept "hasBack" (by decide +kernel)
  have namesBefore : (run steps).names = ["width", "hasBack"] := by decide +kernel
  refine ⟨(brought "hasBack" _ isFlag).2, fun acceptable => ?_, kept _ error isError,
    acceptableIff.mp ⟨next, isOk⟩, next, taken _ next isOk,
    isChanged "width" (.integer 900) rfl, sameFlag.trans isFlag, ?_⟩
  · obtain ⟨created, isCreated⟩ := (ofIff glass).mpr acceptable
    rw [isError] at isCreated
    contradiction
  · rw [areNames, namesBefore]
    decide +kernel

end Casework.Bindings
