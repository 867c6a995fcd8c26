import Casework.Proofs.Bindings.Editing

namespace Casework

/-- A value may be written as a record that tells its kind. -/
def Value.record (value : Value) : Form :=
  .record [("kind", .text value.kind.name), ("value", value.form)]

namespace Bindings

variable {bindings next middle last : Bindings} {changes first second : OrderedMap String Form}

/-- Binding sets with the same names in the same order are equal when they bind them to the same
values. -/
theorem ext_of_get {left right : Bindings} (sameNames : left.names = right.names)
    (sameValues : ∀ name, left.get? name = right.get? name) : left = right := by
  have sameTables : left.table = right.table := OrderedMap.ext_of_get sameNames sameValues
  cases left
  cases right
  cases sameTables
  rfl

/-- The record of a value stands for the value. -/
theorem denotes_record (value : Value) : Denotes value.record value := by
  cases value with
  | number number => exact .taggedNumber rfl rfl (fun _ => nofun) rfl
  | boolean flag => exact .taggedFlag rfl rfl

/-- The next binding set has the new values under the changed names and the old values under all
others, and the new names come after the old ones. -/
structure Revises (changes : OrderedMap String Form) (bindings next : Bindings) : Prop where
  names_eq : next.names =
    bindings.names ++ changes.keys.filter fun name => name ∉ bindings.names
  changed : ∀ name form, changes.get? name = some form →
    ∃ value, Denotes form value ∧ next.get? name = some value
  unchanged : ∀ name, name ∉ changes.keys → next.get? name = bindings.get? name

/-- An update gives exactly the set that revises the bound one. -/
theorem update_eq_ok_iff_revises :
    bindings.update changes.entries = .ok next ↔ Revises changes bindings next := by
  constructor
  · intro isOk
    exact ⟨names_update isOk, fun name form => get_update_of_changed isOk,
      fun name => get_update_of_notMem isOk⟩
  · intro revises
    refine update_eq_ok_iff.mpr ⟨?_, fun name form isRevised => ?_⟩
    · rw [keys_revised, revises.names_eq]
    · rw [get_revised, Option.or_eq_some_iff] at isRevised
      rcases isRevised with isChange | ⟨notChanged, isOld⟩
      · exact revises.changed name form isChange
      · obtain ⟨value, isBound, rfl⟩ := Option.map_eq_some_iff.mp isOld
        have kept := revises.unchanged name ((changes.get_eq_none_iff name).mp notChanged)
        exact ⟨value, denotes_form value, kept.trans isBound⟩

namespace Revises

/-- Two revisions make one, in which the second changes override the first ones. -/
theorem merge (isFirst : Revises first bindings middle) (isSecond : Revises second middle last) :
    Revises (first.insertAll second.entries) bindings last := by
  refine ⟨?_, fun name form isChange => ?_, fun name notChanged => ?_⟩
  · have sameTests : ∀ name ∈ second.keys, decide (name ∉ middle.names) =
        (decide (name ∉ first.keys) && decide (name ∉ bindings.names)) := by
      intro name _
      rw [isFirst.names_eq, ← Bool.decide_and, decide_eq_decide, List.mem_append,
        List.mem_filter, decide_eq_true_eq]
      tauto
    have newNames : (second.keys.filter fun name => name ∉ middle.names) =
        (second.keys.filter fun name => name ∉ first.keys).filter fun name =>
          name ∉ bindings.names := by
      rw [List.filter_filter, List.filter_congr sameTests]
      exact List.filter_congr fun name _ => Bool.and_comm _ _
    have mergedNames : (first.insertAll second.entries).keys =
        first.keys ++ second.keys.filter fun name => name ∉ first.keys :=
      OrderedMap.keys_insertAll second.distinct first
    rw [isSecond.names_eq, newNames, isFirst.names_eq, mergedNames, List.filter_append,
      List.append_assoc]
  · rw [OrderedMap.get_insertAll_entries_eq_some_iff] at isChange
    rcases isChange with isLater | ⟨notLater, isEarlier⟩
    · exact isSecond.changed name form isLater
    · rw [isSecond.unchanged name notLater]
      exact isFirst.changed name form isEarlier
  · rw [OrderedMap.notMem_keys_insertAll_entries_iff] at notChanged
    obtain ⟨notLater, notEarlier⟩ := notChanged
    rw [isSecond.unchanged name notLater, isFirst.unchanged name notEarlier]

/-- What is bound to a name depends on the change of this name only. -/
theorem get_eq (isNext : Revises first bindings next) (isOther : Revises second bindings last)
    {name : String} (same : first.get? name = second.get? name) :
    next.get? name = last.get? name := by
  cases isChange : first.get? name with
  | some form =>
      obtain ⟨value, denotes, isBound⟩ := isNext.changed name form isChange
      obtain ⟨found, alsoDenotes, isFound⟩ := isOther.changed name form (same ▸ isChange)
      rw [isBound, isFound, denotes.unique alsoDenotes]
  | none =>
      have notOther : second.get? name = none := same ▸ isChange
      rw [isNext.unchanged name ((first.get_eq_none_iff name).mp isChange),
        isOther.unchanged name ((second.get_eq_none_iff name).mp notOther)]

end Revises

/-- Changes of different names may be merged in either order. -/
theorem get_insertAll_comm (disjoint : first.keys.Disjoint second.keys) (name : String) :
    (first.insertAll second.entries).get? name = (second.insertAll first.entries).get? name := by
  rw [OrderedMap.get_insertAll_entries, OrderedMap.get_insertAll_entries]
  by_cases inFirst : name ∈ first.keys
  · rw [(second.get_eq_none_iff name).mpr (disjoint inFirst), Option.none_or, Option.or_none]
  · rw [(first.get_eq_none_iff name).mpr inFirst, Option.none_or, Option.or_none]

/-- Updates of different names may be exchanged. -/
theorem exists_update_comm (disjoint : first.keys.Disjoint second.keys)
    (isFirst : bindings.update first.entries = .ok middle)
    (isSecond : middle.update second.entries = .ok last) :
    ∃ otherMiddle otherLast, bindings.update second.entries = .ok otherMiddle ∧
      otherMiddle.update first.entries = .ok otherLast ∧
      ∀ name, otherLast.get? name = last.get? name := by
  -- whether changes are accepted does not depend on the binding set
  obtain ⟨otherMiddle, isOtherFirst⟩ :=
    exists_update_iff.mpr (exists_update_iff.mp ⟨last, isSecond⟩)
  obtain ⟨otherLast, isOtherSecond⟩ :=
    exists_update_iff.mpr (exists_update_iff.mp ⟨middle, isFirst⟩)
  refine ⟨otherMiddle, otherLast, isOtherFirst, isOtherSecond, fun name => ?_⟩
  rw [update_eq_ok_iff_revises] at isFirst isSecond isOtherFirst isOtherSecond
  exact (isOtherFirst.merge isOtherSecond).get_eq (isFirst.merge isSecond)
    (get_insertAll_comm disjoint name).symm

/-- The values of a binding set are accepted again, however each of them is written. -/
theorem ofPairs_mapEntries (bindings : Bindings) {spelling : String → Value → Form}
    (denotes : ∀ name value, Denotes (spelling name value) value) :
    ofPairs (bindings.table.mapEntries spelling).entries = .ok bindings := by
  refine ofPairs_entries_eq_ok_iff.mpr ⟨?_, fun name form isForm => ?_⟩
  · exact (OrderedMap.keys_mapEntries bindings.table spelling).symm
  · rw [OrderedMap.get_mapEntries] at isForm
    obtain ⟨value, isBound, rfl⟩ := Option.map_eq_some_iff.mp isForm
    exact ⟨value, denotes name value, isBound⟩

theorem names_without (bindings : Bindings) (removed : List String) :
    (bindings.without removed).names = bindings.names.filter fun name => name ∉ removed := by
  rw [names, without, OrderedMap.keys_filter fun name => !removed.contains name]
  simp [names]

/-- Only changes of removed names are lost. -/
theorem without_update {removed : List String} (isOk : bindings.update changes.entries = .ok next)
    (areRemoved : changes.keys ⊆ removed) : next.without removed = bindings.without removed := by
  refine ext_of_get ?_ fun name => ?_
  · have noneNew : ((changes.keys.filter fun name => name ∉ bindings.names).filter
        fun name => name ∉ removed) = [] := by
      refine List.filter_eq_nil_iff.mpr fun name isNew => ?_
      simpa using areRemoved (List.mem_filter.mp isNew).1
    rw [names_without, names_without, names_update isOk, List.filter_append, noneNew,
      List.append_nil]
  · rw [get_without, get_without]
    by_cases isRemoved : name ∈ removed
    · rw [if_pos isRemoved, if_pos isRemoved]
    · rw [if_neg isRemoved, if_neg isRemoved,
        get_update_of_notMem isOk fun isChanged => isRemoved (areRemoved isChanged)]

/-- Two updates that succeed are one update with the merged changes, in which the later changes
override the earlier ones. Updates of different names succeed in either order and bind the same
values. An update without changes gives the same binding set, and so does a new check of its values,
each written as it is or as a record. Names are unbound by a check of the other values, which
succeeds, keeps their order and leaves exactly the other names bound. After that it does not matter
whether the removed names were updated before. -/
theorem update_laws (bindings : Bindings) :
    (∀ (first second : OrderedMap String Form) (middle last : Bindings),
      bindings.update first.entries = .ok middle → middle.update second.entries = .ok last →
        bindings.update (first.insertAll second.entries).entries = .ok last) ∧
    (∀ (first second : OrderedMap String Form) (middle last : Bindings),
      first.keys.Disjoint second.keys → bindings.update first.entries = .ok middle →
        middle.update second.entries = .ok last →
        ∃ otherMiddle otherLast, bindings.update second.entries = .ok otherMiddle ∧
          otherMiddle.update first.entries = .ok otherLast ∧
          ∀ name, otherLast.get? name = last.get? name) ∧
    bindings.update [] = .ok bindings ∧
    (∀ spelling : String → Value → Form,
      (∀ name value, spelling name value = value.form ∨ spelling name value = value.record) →
        ofPairs (bindings.table.mapEntries spelling).entries = .ok bindings) ∧
    (∀ removed : List String,
      ofPairs ((bindings.table.filter fun pair => pair.1 ∉ removed).mapEntries
          fun _ value => value.form).entries = .ok (bindings.without removed) ∧
        (bindings.without removed).names = bindings.names.filter (fun name => name ∉ removed) ∧
        ∀ name, (bindings.without removed).get? name =
          if name ∈ removed then none else bindings.get? name) ∧
    ∀ (changes : OrderedMap String Form) (next : Bindings) (removed : List String),
      bindings.update changes.entries = .ok next → changes.keys ⊆ removed →
        next.without removed = bindings.without removed := by
  have asForms (bindings : Bindings) : ofPairs (bindings.table.mapEntries
      fun _ value => value.form).entries = .ok bindings :=
    bindings.ofPairs_mapEntries fun _ value => denotes_form value
  refine ⟨?_, fun first second middle last => exists_update_comm, asForms bindings, ?_, ?_,
    fun changes next removed => without_update⟩
  · intro first second middle last isFirst isSecond
    rw [update_eq_ok_iff_revises] at isFirst isSecond ⊢
    exact isFirst.merge isSecond
  · intro spelling spelled
    refine bindings.ofPairs_mapEntries fun name value => ?_
    rcases spelled name value with isForm | isRecord
    · exact isForm ▸ denotes_form value
    · exact isRecord ▸ denotes_record value
  · intro removed
    refine ⟨?_, names_without bindings removed, get_without bindings removed⟩
    have sameTable : (bindings.table.filter fun pair => pair.1 ∉ removed) =
        (bindings.without removed).table := by
      unfold without
      congr 1
      funext pair
      simp
    rw [sameTable]
    exact asForms (bindings.without removed)

/-- Two updates of different names are one update, and their order does not matter. Without their
names the binding set is as before. -/
theorem update_laws_shelf :
    let pairs : OrderedMap String Form :=
      ⟨[("width", .integer 600), ("hasBack", .flag true)], by simp⟩
    let first : OrderedMap String Form :=
      ⟨[("shelf", .integer 18), ("hasBack", .flag false)], by simp⟩
    let second : OrderedMap String Form := ⟨[("width", .integer 800)], by simp⟩
    ∃ bindings middle last otherMiddle otherLast : Bindings,
      ofPairs pairs.entries = .ok bindings ∧
      bindings.update first.entries = .ok middle ∧ middle.update second.entries = .ok last ∧
      bindings.update (first.insertAll second.entries).entries = .ok last ∧
      bindings.update second.entries = .ok otherMiddle ∧
      otherMiddle.update first.entries = .ok otherLast ∧
      (∀ name, otherLast.get? name = last.get? name) ∧
      ofPairs (bindings.table.mapEntries fun _ value => value.record).entries = .ok bindings ∧
      middle.without ["hasBack", "shelf"] = bindings.without ["hasBack", "shelf"] := by
  intro pairs first second
  have binds : (ofPairs pairs.entries).toOption.isSome = true := by decide +kernel
  obtain ⟨bindings, isOk⟩ := Except.isSome_toOption_iff.mp binds
  have isAcceptable (changes : OrderedMap String Form)
      (accepts : (Bindings.empty.update changes.entries).toOption.isSome = true) :
      Acceptable changes :=
    exists_update_iff.mp (Except.isSome_toOption_iff.mp accepts)
  obtain ⟨middle, isFirst⟩ := exists_update_iff.mpr (isAcceptable first (by decide +kernel))
  obtain ⟨last, isSecond⟩ := exists_update_iff.mpr (isAcceptable second (by decide +kernel))
  obtain ⟨merge, commute, -, check, -, forget⟩ := update_laws bindings
  obtain ⟨otherMiddle, otherLast, isOtherFirst, isOtherSecond, sameValues⟩ :=
    commute first second middle last (List.disjoint_left.mpr (by decide)) isFirst isSecond
  exact ⟨bindings, middle, last, otherMiddle, otherLast, isOk, isFirst, isSecond,
    merge first second middle last isFirst isSecond, isOtherFirst, isOtherSecond, sameValues,
    check _ fun _ _ => .inr rfl, forget first middle _ isFirst (by decide)⟩

end Bindings

end Casework
