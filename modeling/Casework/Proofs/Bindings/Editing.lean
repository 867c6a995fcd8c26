import Casework.Proofs.Bindings.Denotation

namespace Casework.Bindings

variable {bindings next : Bindings} {pairs changes : OrderedMap String Form} {name : String}

/-- Every name is canonical, and its form stands for a value of its kind. -/
def Acceptable (pairs : OrderedMap String Form) : Prop :=
  ∀ pair ∈ pairs.entries, ∃ value, Denotes pair.2 value ∧
    Parameter.kind? pair.1 = some value.kind

/-- The binding set binds exactly the names of the pairs, in their order, to what their forms
stand for. -/
structure Binds (bindings : Bindings) (pairs : OrderedMap String Form) : Prop where
  names_eq : bindings.names = pairs.keys
  denotes : ∀ name form, pairs.get? name = some form →
    ∃ value, Denotes form value ∧ bindings.get? name = some value

/-- Pairs under distinct names are accepted exactly as the set that binds them. -/
theorem ofPairs_entries_eq_ok_iff :
    ofPairs pairs.entries = .ok bindings ↔ bindings.Binds pairs := by
  constructor
  · intro isOk
    have reads := (ofPairs_eq_ok_iff pairs.distinct).mp isOk
    refine ⟨(map_fst_of_reads reads).symm, fun name form found => ?_⟩
    obtain ⟨value, isRead, isBound⟩ :=
      get_of_ofPairs pairs.distinct isOk ((pairs.get_eq_some_iff name form).mp found)
    exact ⟨value, readEntry_eq_ok_iff.mp isRead, isBound⟩
  · rintro ⟨sameNames, denotes⟩
    have sameLength : bindings.table.entries.length = pairs.entries.length := by
      simpa [names, OrderedMap.keys] using congrArg List.length sameNames
    refine (ofPairs_eq_ok_iff pairs.distinct).mpr (List.forall₂_iff_get.mpr
      ⟨sameLength.symm, fun place inside alsoInside => ?_⟩)
    -- both lists have the same name at this place, and each of them has it only there
    have sameName : bindings.table.entries[place].1 = pairs.entries[place].1 := by
      have equal := congrArg (·[place]?) sameNames
      simpa [names, OrderedMap.keys, inside, alsoInside] using equal
    have isForm := (pairs.get_eq_some_iff pairs.entries[place].1 pairs.entries[place].2).mpr
      (List.getElem_mem inside)
    have isValue := (bindings.table.get_eq_some_iff bindings.table.entries[place].1
      bindings.table.entries[place].2).mpr (List.getElem_mem alsoInside)
    obtain ⟨value, isDenoted, isBound⟩ := denotes _ _ isForm
    rw [sameName] at isValue
    obtain rfl := Option.some.inj (isBound.symm.trans isValue)
    exact ⟨sameName, readEntry_eq_ok_iff.mpr isDenoted⟩

/-- Forms that stand for values of the right kinds are read as such values. -/
theorem exists_reads {entries : List (String × Form)}
    (accepted : ∀ pair ∈ entries, ∃ value, Denotes pair.2 value ∧
      Parameter.kind? pair.1 = some value.kind) :
    ∃ values : List (String × Value), List.Forall₂ Reads entries values ∧
      ∀ pair ∈ values, Parameter.kind? pair.1 = some pair.2.kind := by
  induction entries with
  | nil => exact ⟨[], .nil, by simp⟩
  | cons pair rest inductionHypothesis =>
      obtain ⟨⟨value, isDenoted, isKind⟩, others⟩ := List.forall_mem_cons.mp accepted
      obtain ⟨values, reads, areKinds⟩ := inductionHypothesis others
      exact ⟨(pair.1, value) :: values, .cons ⟨rfl, readEntry_eq_ok_iff.mpr isDenoted⟩ reads,
        List.forall_mem_cons.mpr ⟨isKind, areKinds⟩⟩

/-- Pairs can be bound exactly when they are acceptable. -/
theorem exists_ofPairs_iff :
    (∃ bindings, ofPairs pairs.entries = .ok bindings) ↔ Acceptable pairs := by
  constructor
  · rintro ⟨bindings, isOk⟩ pair isPair
    obtain ⟨value, isDenoted, isBound⟩ := (ofPairs_entries_eq_ok_iff.mp isOk).denotes pair.1 pair.2
      ((pairs.get_eq_some_iff _ _).mpr isPair)
    exact ⟨value, isDenoted, kind_of_get isBound⟩
  · intro acceptable
    obtain ⟨values, reads, areKinds⟩ := exists_reads acceptable
    exact ⟨⟨⟨values, map_fst_of_reads reads ▸ pairs.distinct⟩, areKinds⟩,
      (ofPairs_eq_ok_iff pairs.distinct).mpr reads⟩

/-- An update is checked on the forms of the old values together with the changes. -/
def revised (bindings : Bindings) (changes : OrderedMap String Form) : OrderedMap String Form :=
  (bindings.table.mapEntries fun _ value => value.form).insertAll changes.entries

/-- A change comes before the value that is bound. -/
theorem get_revised (bindings : Bindings) (changes : OrderedMap String Form) (name : String) :
    (bindings.revised changes).get? name =
      (changes.get? name).or ((bindings.get? name).map Value.form) := by
  rw [revised, OrderedMap.get_insertAll_entries, OrderedMap.get_mapEntries]
  rfl

theorem keys_revised (bindings : Bindings) (changes : OrderedMap String Form) :
    (bindings.revised changes).keys =
      bindings.names ++ changes.keys.filter fun name => name ∉ bindings.names := by
  rw [revised, OrderedMap.keys_insertAll changes.distinct, OrderedMap.keys_mapEntries]
  rfl

/-- An update binds the revised pairs. -/
theorem update_eq_ok_iff :
    bindings.update changes.entries = .ok next ↔ next.Binds (bindings.revised changes) :=
  ofPairs_entries_eq_ok_iff

/-- Old names keep their order, and new ones come after them in the order of the changes. -/
theorem names_update (isOk : bindings.update changes.entries = .ok next) :
    next.names = bindings.names ++ changes.keys.filter fun name => name ∉ bindings.names := by
  rw [(update_eq_ok_iff.mp isOk).names_eq, keys_revised]

/-- A changed name is bound to its new value. -/
theorem get_update_of_changed {form : Form} (isOk : bindings.update changes.entries = .ok next)
    (isChange : changes.get? name = some form) :
    ∃ value, Denotes form value ∧ next.get? name = some value := by
  refine (update_eq_ok_iff.mp isOk).denotes name form ?_
  rw [get_revised, isChange, Option.some_or]

/-- Every other name keeps its value, or stays unbound. -/
theorem get_update_of_notMem (isOk : bindings.update changes.entries = .ok next)
    (unchanged : name ∉ changes.keys) : next.get? name = bindings.get? name := by
  have binds := update_eq_ok_iff.mp isOk
  have isRevised := bindings.get_revised changes name
  rw [(changes.get_eq_none_iff name).mpr unchanged, Option.none_or] at isRevised
  cases isOld : bindings.get? name with
  | some value =>
      rw [isOld] at isRevised
      obtain ⟨found, isDenoted, isBound⟩ := binds.denotes name value.form isRevised
      rw [isBound, isDenoted.unique (denotes_form value)]
  | none =>
      rw [isOld] at isRevised
      have absent : name ∉ next.names := by
        rw [binds.names_eq]
        exact (OrderedMap.get_eq_none_iff _ _).mp isRevised
      exact (next.table.get_eq_none_iff name).mpr absent

/-- An update succeeds exactly when its changes are acceptable, whatever is bound already. -/
theorem exists_update_iff :
    (∃ next, bindings.update changes.entries = .ok next) ↔ Acceptable changes := by
  have same : (∃ next, bindings.update changes.entries = .ok next) ↔
      Acceptable (bindings.revised changes) := exists_ofPairs_iff
  rw [same]
  constructor
  · intro acceptable pair isPair
    refine acceptable pair ((OrderedMap.get_eq_some_iff _ _ _).mp ?_)
    rw [get_revised, (changes.get_eq_some_iff pair.1 pair.2).mpr isPair, Option.some_or]
  · intro acceptable pair isPair
    have found := (OrderedMap.get_eq_some_iff _ _ _).mpr isPair
    rw [get_revised, Option.or_eq_some_iff] at found
    rcases found with isChange | ⟨_, isOld⟩
    · exact acceptable pair ((changes.get_eq_some_iff _ _).mp isChange)
    · obtain ⟨value, isBound, isForm⟩ := Option.map_eq_some_iff.mp isOld
      exact ⟨value, isForm ▸ denotes_form value, kind_of_get isBound⟩

/-- Exactly the removed names are unbound. -/
theorem get_without (bindings : Bindings) (removed : List String) (name : String) :
    (bindings.without removed).get? name =
      if name ∈ removed then none else bindings.get? name := by
  have kept := bindings.table.get_filter (fun name => !removed.contains name) name
  refine kept.trans ?_
  by_cases isRemoved : name ∈ removed <;> simp [isRemoved, get?]

/-- An edit changes some names or unbinds some. -/
inductive Edit where
  | update (changes : OrderedMap String Form)
  | without (removed : List String)

/-- These are the names that an edit touches. -/
def Edit.names : Edit → List String
  | .update changes => changes.keys
  | .without removed => removed

def Edit.apply (bindings : Bindings) : Edit → Except FormError Bindings
  | .update changes => bindings.update changes.entries
  | .without removed => .ok (bindings.without removed)

/-- The edits are made one after the other, and the first one that fails ends them. -/
def edited (bindings : Bindings) (edits : List Edit) : Except FormError Bindings :=
  edits.foldlM Edit.apply bindings

theorem Edit.get_apply_of_notMem {edit : Edit} (isOk : edit.apply bindings = .ok next)
    (untouched : name ∉ edit.names) : next.get? name = bindings.get? name := by
  cases edit with
  | update changes => exact get_update_of_notMem isOk untouched
  | without removed =>
      cases isOk
      exact (get_without _ _ _).trans (if_neg untouched)

/-- A name that no edit touches keeps its value, or stays unbound. -/
theorem get_edited_of_notMem {edits : List Edit} (isOk : bindings.edited edits = .ok next)
    (untouched : ∀ edit ∈ edits, name ∉ edit.names) : next.get? name = bindings.get? name := by
  induction edits generalizing bindings with
  | nil =>
      cases isOk
      rfl
  | cons edit rest inductionHypothesis =>
      obtain ⟨first, isFirst, isRest⟩ := Except.bind_eq_ok_iff.mp isOk
      obtain ⟨notHere, notLater⟩ := List.forall_mem_cons.mp untouched
      rw [inductionHypothesis isRest notLater, edit.get_apply_of_notMem isFirst notHere]

end Casework.Bindings
