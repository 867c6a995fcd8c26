import Casework.Proofs.Bindings.Updating
import Casework.Proofs.Cabinet.Snapshot

namespace Casework

open Binary64

namespace Measure

theorem field_eq_ok_iff {form : Form} {measure : Measure} :
    field form = .ok measure ↔ Form.numberField form = .ok (.finite measure.value) := by
  rw [← Bindings.finiteField_eq_ok_iff, field, Except.bind_eq_ok_iff]
  constructor
  · rintro ⟨value, isFinite, isMeasure⟩
    split at isMeasure
    · cases isMeasure
      exact isFinite
    · contradiction
  · intro isFinite
    refine ⟨measure.value, isFinite, ?_⟩
    rw [dif_pos measure.notBelow]

/-- A measure is read from its own form. -/
theorem field_measureForm (measure : Measure) :
    field (Cabinet.measureForm measure) = .ok measure :=
  field_eq_ok_iff.mpr rfl

end Measure

namespace Cabinet

open Bindings

variable {cabinet resized middle last : Cabinet} {bindings next : Bindings}
  {changes first second : OrderedMap String Form}

/-- These are the names of the dimensions. -/
def axes : List String := ["width", "height", "depth"]

/-- A size is a finite number that is not below zero, or a whole number that is not above the
largest finite one. -/
inductive IsSize : Form → Prop where
  | real {number : Finite} (notBelow : 0 ≤ number.units) : IsSize (.real (.finite number))
  | whole {count : Nat} (bounded : count ≤ Value.largestWhole) : IsSize (.integer count)

/-- The changes give sizes to some of the dimensions. -/
structure Resizing (changes : OrderedMap String Form) : Prop where
  areAxes : changes.keys ⊆ axes
  areSizes : ∀ name form, changes.get? name = some form → IsSize form

/-- Sizes may be checked pair by pair. -/
theorem Resizing.of_forall_mem (areAxes : changes.keys ⊆ axes)
    (areSizes : ∀ pair ∈ changes.entries, IsSize pair.2) : Resizing changes :=
  ⟨areAxes, fun name form isChange =>
    areSizes _ ((changes.get_eq_some_iff name form).mp isChange)⟩

/-- A dimension takes a size as the number that a parameter is bound to. -/
theorem IsSize.exists_measure {form : Form} (isSize : IsSize form) :
    ∃ measure, Measure.field form = .ok measure ∧ Denotes form (.number measure.value) := by
  cases isSize with
  | @real number notBelow => exact ⟨⟨number, notBelow⟩, Measure.field_eq_ok_iff.mpr rfl, .real _⟩
  | @whole count bounded =>
      obtain ⟨nearest, isNearest⟩ := exists_nearest bounded
      have notNegative : nearest.negative = false := by
        rw [negative_of_ofInt isNearest, decide_eq_false_iff_not]
        exact Int.not_lt.mpr (Int.natCast_nonneg count)
      have notBelow : 0 ≤ nearest.units := by
        rw [Finite.units, notNegative]
        exact Int.natCast_nonneg nearest.count
      exact ⟨⟨nearest, notBelow⟩,
        Measure.field_eq_ok_iff.mpr (numberField_integer_eq_ok_iff.mpr isNearest),
        .integer bounded isNearest⟩

/-- Dimensions are read when there is a measure under each of their names. -/
theorem Dimensions.ofFields_eq_ok_iff {fields : List (String × Form)} {dimensions : Dimensions} :
    ofFields fields = .ok dimensions ↔
      ∀ field ∈ dimensions.fields,
        ∃ form, Form.field? fields field.1 = some form ∧ Measure.field form = .ok field.2 := by
  have split : (∀ field ∈ dimensions.fields,
      ∃ form, Form.field? fields field.1 = some form ∧ Measure.field form = .ok field.2) ↔
        Form.required fields "width" Measure.field = .ok dimensions.width ∧
        Form.required fields "height" Measure.field = .ok dimensions.height ∧
        Form.required fields "depth" Measure.field = .ok dimensions.depth := by
    simp [Dimensions.fields, required_eq_ok_iff]
  rw [split]
  simp only [ofFields, Form.Checked.apply_eq_ok_iff, Except.map_eq_ok_iff]
  constructor
  · rintro ⟨_, depth, ⟨_, height, ⟨width, isWidth, rfl⟩, isHeight, rfl⟩, isDepth, rfl⟩
    exact ⟨isWidth, isHeight, isDepth⟩
  · rintro ⟨isWidth, isHeight, isDepth⟩
    exact ⟨_, _, ⟨_, _, ⟨_, isWidth, rfl⟩, isHeight, rfl⟩, isDepth, rfl⟩

/-- The dimensions of the resized cabinet are those of the changes, and the others are as before,
like the rest of the cabinet. -/
structure Resizes (changes : OrderedMap String Form) (cabinet resized : Cabinet) : Prop where
  others : resized = { cabinet with dimensions := resized.dimensions }
  changed : ∀ name measure form, (name, measure) ∈ resized.dimensions.fields →
    changes.get? name = some form → Measure.field form = .ok measure
  unchanged : ∀ name measure, (name, measure) ∈ resized.dimensions.fields →
    name ∉ changes.keys → (name, measure) ∈ cabinet.dimensions.fields

/-- A dimension is found under its name in the form of its measure. -/
theorem lookup_form_eq_some_iff {dimensions : Dimensions} {name : String} {form : Form} :
    dimensions.form.lookup name = some form ↔
      ∃ measure, (name, measure) ∈ dimensions.fields ∧ measureForm measure = form := by
  have distinct : (dimensions.form.map Prod.fst).Nodup := (by decide : axes.Nodup)
  constructor
  · intro found
    obtain ⟨⟨_, measure⟩, isField, equal⟩ := List.mem_map.mp (List.mem_of_lookup found)
    cases equal
    exact ⟨measure, isField, rfl⟩
  · rintro ⟨measure, isField, rfl⟩
    have isMember : (name, measureForm measure) ∈ dimensions.form :=
      List.mem_map.mpr ⟨_, isField, rfl⟩
    exact List.lookup_of_mem distinct isMember

/-- The first form under a name is that of the changes, if they have one. -/
theorem field_append_form (changes : OrderedMap String Form) (dimensions : Dimensions)
    (name : String) :
    Form.field? (changes.entries ++ dimensions.form) name =
      (changes.get? name).or (dimensions.form.lookup name) :=
  List.lookup_append

theorem exists_mem_fields (dimensions : Dimensions) {name : String} (isAxis : name ∈ axes) :
    ∃ measure, (name, measure) ∈ dimensions.fields := by
  obtain ⟨⟨_, measure⟩, isField, rfl⟩ :=
    List.mem_map.mp (show name ∈ dimensions.fields.map Prod.fst from isAxis)
  exact ⟨measure, isField⟩

/-- A cabinet is resized exactly to the cabinet that the changes describe. -/
theorem resize_eq_ok_iff_resizes :
    cabinet.resize changes.entries = .ok resized ↔ Resizes changes cabinet resized := by
  rw [resize, Except.map_eq_ok_iff]
  constructor
  · rintro ⟨dimensions, isRead, rfl⟩
    rw [Dimensions.ofFields_eq_ok_iff] at isRead
    refine ⟨rfl, fun name measure form isField isChange => ?_,
      fun name measure isField notChanged => ?_⟩
    · obtain ⟨found, isFound, isMeasure⟩ := isRead (name, measure) isField
      rw [field_append_form, isChange, Option.some_or] at isFound
      cases isFound
      exact isMeasure
    · obtain ⟨found, isFound, isMeasure⟩ := isRead (name, measure) isField
      rw [field_append_form, (changes.get_eq_none_iff name).mpr notChanged, Option.none_or,
        lookup_form_eq_some_iff] at isFound
      obtain ⟨old, isOld, rfl⟩ := isFound
      rw [Measure.field_measureForm] at isMeasure
      cases isMeasure
      exact isOld
  · intro resizes
    refine ⟨resized.dimensions, Dimensions.ofFields_eq_ok_iff.mpr fun ⟨name, measure⟩ isField => ?_,
      resizes.others.symm⟩
    rw [field_append_form]
    cases isChange : changes.get? name with
    | some form => exact ⟨form, rfl, resizes.changed name measure form isField isChange⟩
    | none =>
        have isOld := resizes.unchanged name measure isField
          ((changes.get_eq_none_iff name).mp isChange)
        exact ⟨measureForm measure, lookup_form_eq_some_iff.mpr ⟨measure, isOld, rfl⟩,
          Measure.field_measureForm measure⟩

/-- Two resizings make one, in which the second sizes override the first ones. -/
theorem Resizes.merge (isFirst : Resizes first cabinet middle)
    (isSecond : Resizes second middle last) :
    Resizes (first.insertAll second.entries) cabinet last := by
  refine ⟨?_, fun name measure form isField isChange => ?_,
    fun name measure isField notChanged => ?_⟩
  · rw [isSecond.others, isFirst.others]
  · rw [OrderedMap.get_insertAll_entries_eq_some_iff] at isChange
    rcases isChange with isLater | ⟨notLater, isEarlier⟩
    · exact isSecond.changed name measure form isField isLater
    · have inMiddle := isSecond.unchanged name measure isField notLater
      exact isFirst.changed name measure form inMiddle isEarlier
  · rw [OrderedMap.notMem_keys_insertAll_entries_iff] at notChanged
    obtain ⟨notLater, notEarlier⟩ := notChanged
    have inMiddle := isSecond.unchanged name measure isField notLater
    exact isFirst.unchanged name measure inMiddle notEarlier

/-- Every cabinet takes sizes. -/
theorem exists_resizes (cabinet : Cabinet) (resizing : Resizing changes) :
    ∃ resized, Resizes changes cabinet resized := by
  have perAxis (name : String) (isAxis : name ∈ axes) : ∃ measure,
      (∀ form, changes.get? name = some form → Measure.field form = .ok measure) ∧
        (name ∉ changes.keys → (name, measure) ∈ cabinet.dimensions.fields) := by
    cases isChange : changes.get? name with
    | some form =>
        obtain ⟨measure, isMeasure, -⟩ := (resizing.areSizes name form isChange).exists_measure
        have isKey : name ∈ changes.keys := by
          by_contra notKey
          rw [(changes.get_eq_none_iff name).mpr notKey] at isChange
          contradiction
        exact ⟨measure, fun found equal => Option.some.inj equal ▸ isMeasure, absurd isKey⟩
    | none =>
        obtain ⟨measure, isField⟩ := exists_mem_fields cabinet.dimensions isAxis
        exact ⟨measure, nofun, fun _ => isField⟩
  obtain ⟨width, isWidth⟩ := perAxis "width" (by decide)
  obtain ⟨height, isHeight⟩ := perAxis "height" (by decide)
  obtain ⟨depth, isDepth⟩ := perAxis "depth" (by decide)
  have fits : ∀ pair ∈ (Dimensions.mk width height depth).fields,
      (∀ form, changes.get? pair.1 = some form → Measure.field form = .ok pair.2) ∧
        (pair.1 ∉ changes.keys → pair ∈ cabinet.dimensions.fields) :=
    List.forall_mem_cons.mpr
      ⟨isWidth, List.forall_mem_cons.mpr ⟨isHeight, List.forall_mem_singleton.mpr isDepth⟩⟩
  exact ⟨{ cabinet with dimensions := ⟨width, height, depth⟩ }, rfl,
    fun name measure form isField => (fits _ isField).1 form,
    fun name measure isField => (fits _ isField).2⟩

/-- These parameters do not depend on the dimensions. -/
def otherParameters (cabinet : Cabinet) : List (String × Form) :=
  [("doorCount", .integer cabinet.doorCount), ("drawerCount", .integer cabinet.drawerCount)] ++
    cabinet.thicknesses.fields.filterMap (fun field =>
      field.2.2.map fun thickness => (field.2.1, .real thickness)) ++
    cabinet.construction.fields.map fun field => (field.2.1, .flag field.2.2)

theorem parameters_eq (cabinet : Cabinet) :
    cabinet.parameters = cabinet.dimensions.form ++ cabinet.otherParameters := by
  simp only [parameters, otherParameters, List.append_assoc]

/-- No other parameter has the name of a dimension. -/
theorem notMem_axes_of_mem_otherParameters {name : String} {form : Form}
    (isOther : (name, form) ∈ cabinet.otherParameters) : name ∉ axes := by
  have distinct := cabinet.distinct_parameters
  rw [parameters_eq, List.map_append, List.nodup_append] at distinct
  exact fun isAxis => distinct.2.2 name isAxis name (List.mem_map_of_mem isOther) rfl

/-- A resized cabinet binds what an update with the same sizes binds. -/
theorem Resizes.binds (resizes : Resizes changes cabinet resized) (resizing : Resizing changes)
    (isOk : cabinet.bindings = .ok bindings) (revises : Revises changes bindings next) :
    next.Binds resized.parameterTable := by
  have isBefore : bindings.Binds cabinet.parameterTable := ofPairs_entries_eq_ok_iff.mp isOk
  have sameOthers : resized.otherParameters = cabinet.otherParameters := by
    rw [resizes.others]
    rfl
  have namesOf (cabinet : Cabinet) :
      cabinet.parameterTable.keys = axes ++ cabinet.otherParameters.map Prod.fst := by
    show cabinet.parameters.map Prod.fst = _
    rw [parameters_eq, List.map_append]
    rfl
  constructor
  · -- all the changed names are bound before
    have noneNew : (changes.keys.filter fun name => name ∉ bindings.names) = [] := by
      refine List.filter_eq_nil_iff.mpr fun name isKey => ?_
      rw [isBefore.names_eq, namesOf, decide_eq_true_eq, not_not]
      exact List.mem_append_left _ (resizing.areAxes isKey)
    rw [revises.names_eq, noneNew, List.append_nil, isBefore.names_eq, namesOf, namesOf, sameOthers]
  · intro name form found
    have isPair : (name, form) ∈ resized.parameters :=
      (resized.parameterTable.get_eq_some_iff name form).mp found
    rw [parameters_eq, List.mem_append] at isPair
    rcases isPair with isDimension | isOther
    · obtain ⟨⟨axis, measure⟩, isField, equal⟩ := List.mem_map.mp isDimension
      cases equal
      refine ⟨.number measure.value, .real _, ?_⟩
      cases isChange : changes.get? axis with
      | some form =>
          obtain ⟨size, isSize, denotes⟩ := (resizing.areSizes axis form isChange).exists_measure
          obtain ⟨value, alsoDenotes, isBound⟩ := revises.changed axis form isChange
          have isMeasure := resizes.changed axis measure form isField isChange
          cases isSize.symm.trans isMeasure
          rw [isBound, alsoDenotes.unique denotes]
      | none =>
          have notChanged := (changes.get_eq_none_iff axis).mp isChange
          have isOld := resizes.unchanged axis measure isField notChanged
          rw [revises.unchanged axis notChanged]
          exact (get_bindings_iff isOk).mpr (.dimension isOld)
    · have notChanged : name ∉ changes.keys := fun isKey =>
        notMem_axes_of_mem_otherParameters isOther (resizing.areAxes isKey)
      rw [sameOthers] at isOther
      rw [revises.unchanged name notChanged]
      refine isBefore.denotes name form ((OrderedMap.get_eq_some_iff _ _ _).mpr ?_)
      show (name, form) ∈ cabinet.parameters
      rw [parameters_eq]
      exact List.mem_append_right _ isOther

/-- Sizes are names of dimensions with numbers. -/
theorem Resizing.acceptable (resizing : Resizing changes) : Acceptable changes := by
  rintro ⟨name, form⟩ isPair
  have isChange := (changes.get_eq_some_iff name form).mpr isPair
  obtain ⟨measure, -, denotes⟩ := (resizing.areSizes name form isChange).exists_measure
  have areNumbers : axes ⊆ Parameter.numbers := by decide
  exact ⟨_, denotes, Parameter.kind_of_mem_numbers
    (areNumbers (resizing.areAxes (List.mem_map_of_mem isPair)))⟩

/-- A cabinet that binds its parameters takes any sizes for any of its dimensions, and the resized
cabinet binds its parameters to the same values in the same order as an update of the bindings with
these sizes. Two resizings with sizes succeed and are one resizing with the merged sizes, in which
the later ones override the earlier ones, and so are any two resizings that succeed. -/
theorem resize_coherent (cabinet : Cabinet) :
    (∀ bindings, cabinet.bindings = .ok bindings → ∀ changes, Resizing changes →
      ∃ resized next, cabinet.resize changes.entries = .ok resized ∧
        resized.bindings = .ok next ∧ bindings.update changes.entries = .ok next) ∧
    (∀ first second, Resizing first → Resizing second →
      ∃ middle last, cabinet.resize first.entries = .ok middle ∧
        middle.resize second.entries = .ok last ∧
        cabinet.resize (first.insertAll second.entries).entries = .ok last) ∧
    ∀ (first second : OrderedMap String Form) (middle last : Cabinet),
      cabinet.resize first.entries = .ok middle → middle.resize second.entries = .ok last →
        cabinet.resize (first.insertAll second.entries).entries = .ok last := by
  simp only [resize_eq_ok_iff_resizes]
  refine ⟨fun bindings isOk changes resizing => ?_, fun first second isFirst isSecond => ?_,
    fun first second middle last => Resizes.merge⟩
  · obtain ⟨resized, resizes⟩ := exists_resizes cabinet resizing
    obtain ⟨next, isUpdated⟩ := exists_update_iff.mpr resizing.acceptable
    have binds := resizes.binds resizing isOk (update_eq_ok_iff_revises.mp isUpdated)
    exact ⟨resized, next, resizes, ofPairs_entries_eq_ok_iff.mpr binds, isUpdated⟩
  · obtain ⟨middle, toMiddle⟩ := exists_resizes cabinet isFirst
    obtain ⟨last, toLast⟩ := exists_resizes middle isSecond
    exact ⟨middle, last, toMiddle, toLast, toMiddle.merge toLast⟩

/-- A base unit takes a whole width and a real depth one after the other. -/
theorem resize_coherent_base :
    let side (millimetres : Nat) (onGrid : OnGrid (millimetres * unitsPerOne)) : Measure :=
      ⟨⟨false, millimetres * unitsPerOne, onGrid⟩, Int.natCast_nonneg _⟩
    let dimensions : Dimensions :=
      ⟨side 450 (by decide +kernel), side 700 (by decide +kernel), side 570 (by decide +kernel)⟩
    let cabinet : Cabinet :=
      ⟨"unit", .base, dimensions, .standard, .standard, 1, 0, 0, none⟩
    let first : OrderedMap String Form := ⟨[("width", .integer 900)], by simp⟩
    let second : OrderedMap String Form :=
      ⟨[("depth", measureForm dimensions.width), ("width", .integer 800)], by simp⟩
    ∃ bindings resized next middle last, cabinet.bindings = .ok bindings ∧
      cabinet.resize first.entries = .ok resized ∧ resized.bindings = .ok next ∧
      bindings.update first.entries = .ok next ∧
      cabinet.resize first.entries = .ok middle ∧ middle.resize second.entries = .ok last ∧
      cabinet.resize (first.insertAll second.entries).entries = .ok last := by
  intro side dimensions cabinet first second
  have binds : cabinet.bindings.toOption.isSome = true := by decide +kernel
  obtain ⟨bindings, isOk⟩ := Except.isSome_toOption_iff.mp binds
  have wholeSize (count : Nat) (small : count ≤ 1000) : IsSize (.integer count) :=
    .whole (Nat.le_trans small (by decide +kernel))
  have firstSizes : ∀ pair ∈ first.entries, IsSize pair.2 :=
    List.forall_mem_singleton.mpr (wholeSize 900 (by decide))
  have secondSizes : ∀ pair ∈ second.entries, IsSize pair.2 :=
    List.forall_mem_cons.mpr ⟨.real dimensions.width.notBelow,
      List.forall_mem_singleton.mpr (wholeSize 800 (by decide))⟩
  have isFirst : Resizing first := .of_forall_mem (by decide) firstSizes
  have isSecond : Resizing second := .of_forall_mem (by decide) secondSizes
  obtain ⟨single, twofold, merged⟩ := resize_coherent cabinet
  obtain ⟨resized, next, isResized, isNext, isUpdated⟩ := single bindings isOk first isFirst
  obtain ⟨middle, last, isMiddle, isLast, -⟩ := twofold first second isFirst isSecond
  exact ⟨bindings, resized, next, middle, last, isOk, isResized, isNext, isUpdated, isMiddle,
    isLast, merged first second middle last isMiddle isLast⟩

end Cabinet

end Casework
