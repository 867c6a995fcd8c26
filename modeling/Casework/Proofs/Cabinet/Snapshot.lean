import Casework.Cabinet.Form
import Casework.Proofs.Bindings.Editing
import Casework.Proofs.Cabinet.Parameters

namespace Casework

open Binary64

namespace Bindings

/-- The first form that cannot be read stops the reading of the entries. -/
theorem exists_first_of_readEntries {pairs : List (String × Form)} {error : FormError}
    (fails : readEntries pairs = .error error) :
    ∃ before pair after, pairs = before ++ pair :: after ∧
      (∀ earlier ∈ before, ∃ entry, readEntry earlier.2 = .ok entry) ∧
      readEntry pair.2 = .error error := by
  induction pairs with
  | nil => contradiction
  | cons pair rest inductionHypothesis =>
      unfold readEntries at fails
      rcases Except.bind_eq_error_iff.mp fails with isFirst | ⟨entry, isRead, others⟩
      · exact ⟨[], pair, rest, rfl, List.forall_mem_nil _, isFirst⟩
      · have inRest : readEntries rest = .error error := by
          rcases Except.bind_eq_error_iff.mp others with inRest | ⟨_, _, equal⟩
          · exact inRest
          · contradiction
        obtain ⟨before, culprit, after, rfl, areRead, isCulprit⟩ := inductionHypothesis inRest
        exact ⟨pair :: before, culprit, after, rfl,
          List.forall_mem_cons.mpr ⟨⟨entry, isRead⟩, areRead⟩, isCulprit⟩

/-- Every form of entries that are read is read. -/
theorem exists_entry_of_readEntries {pairs : List (String × Form)}
    {entries : List (Form.Checked (String × Value))} (isRead : readEntries pairs = .ok entries) :
    ∀ pair ∈ pairs, ∃ entry, readEntry pair.2 = .ok entry := by
  induction pairs generalizing entries with
  | nil => exact List.forall_mem_nil _
  | cons pair rest inductionHypothesis =>
      unfold readEntries at isRead
      obtain ⟨entry, isFirst, others⟩ := Except.bind_eq_ok_iff.mp isRead
      obtain ⟨_, areOthers, _⟩ := Except.bind_eq_ok_iff.mp others
      exact List.forall_mem_cons.mpr ⟨⟨entry, isFirst⟩, inductionHypothesis areOthers⟩

/-- Pairs are refused as soon as one of their forms stops the reading. -/
theorem ofPairs_of_readEntries {pairs : List (String × Form)} {error : FormError}
    (fails : readEntries pairs = .error error) : ofPairs pairs = .error error := by
  rw [ofPairs, fails]
  rfl

/-- A number or a flag stands for a value unless it is not finite. -/
theorem denotes_or_notFinite {form : Form} (isAmount : form.amount?.isSome = true) :
    (∃ value, Denotes form value) ∨ ∃ literal, Value.ofForm form = .error (.notFinite literal) := by
  fun_cases Value.ofForm form with
  | case1 flag => exact .inl ⟨_, .flag flag⟩
  | case2 whole nearest isNearest bounded => exact .inl ⟨_, .integer bounded isNearest⟩
  | case3 | case4 | case6 => exact .inr ⟨_, rfl⟩
  | case5 number => exact .inl ⟨_, .real number⟩
  | case7 form noFlag noInteger noFinite noReal =>
      cases form with
      | flag flag => exact absurd rfl (noFlag flag)
      | integer whole => exact absurd rfl (noInteger whole)
      | real number => exact absurd rfl (noReal number)
      | absent | text | list | record => contradiction

/-- A form that is not finite stops the reading with one fault, which shows it. -/
theorem readEntry_of_notFinite {form : Form} {literal : String}
    (refused : Value.ofForm form = .error (.notFinite literal)) :
    readEntry form =
      .error (.faulty [⟨["params"], .rule (Value.Refusal.notFinite literal).message⟩]) := by
  unfold readEntry
  split
  · next fields =>
      have unusable : Value.ofForm (.record fields) =
          .error (.unusable (Form.record fields).typeName) := rfl
      cases unusable.symm.trans refused
  · rw [refused]

end Bindings

namespace Cabinet

open Bindings

variable {cabinet : Cabinet} {bindings : Bindings} {name : String} {form : Form} {value : Value}

/-- Every count stands under its parameter. -/
def counts (cabinet : Cabinet) : List (String × Nat) :=
  [("doorCount", cabinet.doorCount), ("drawerCount", cabinet.drawerCount)]

/-- A field of the cabinet gives the parameter this value. A count gives the nearest number. -/
inductive Gives (cabinet : Cabinet) : String → Value → Prop where
  | dimension {name : String} {measure : Measure}
      (isField : (name, measure) ∈ cabinet.dimensions.fields) :
      Gives cabinet name (.number measure.value)
  | count {name : String} {count : Nat} {nearest : Finite}
      (isField : (name, count) ∈ cabinet.counts) (isNearest : ofInt count = .finite nearest) :
      Gives cabinet name (.number nearest)
  | thickness {field name : String} {number : Finite}
      (isField : (field, name, some (.finite number)) ∈ cabinet.thicknesses.fields) :
      Gives cabinet name (.number number)
  | choice {field name : String} {flag : Bool}
      (isField : (field, name, flag) ∈ cabinet.construction.fields) :
      Gives cabinet name (.boolean flag)

/-- No count is beyond the finite numbers, and every thickness that is given is finite. -/
structure Bindable (cabinet : Cabinet) : Prop where
  counts : ∀ name count, (name, count) ∈ cabinet.counts → count ≤ Value.largestWhole
  thicknesses : ∀ field name thickness,
    (field, name, some thickness) ∈ cabinet.thicknesses.fields →
      ∃ number, thickness = .finite number

/-- A pair of the parameters comes from one of the fields. -/
theorem mem_parameters_iff :
    (name, form) ∈ cabinet.parameters ↔
      (∃ measure, (name, measure) ∈ cabinet.dimensions.fields ∧ measureForm measure = form) ∨
      (∃ count : Nat, (name, count) ∈ cabinet.counts ∧ Form.integer count = form) ∨
      (∃ field thickness, (field, name, some thickness) ∈ cabinet.thicknesses.fields ∧
        Form.real thickness = form) ∨
      ∃ field flag, (field, name, flag) ∈ cabinet.construction.fields ∧ Form.flag flag = form := by
  have split : cabinet.parameters =
      cabinet.dimensions.fields.map (fun field => (field.1, measureForm field.2)) ++
        cabinet.counts.map (fun field => (field.1, Form.integer field.2)) ++
        cabinet.thicknesses.fields.filterMap (fun field =>
          field.2.2.map fun thickness => (field.2.1, Form.real thickness)) ++
        cabinet.construction.fields.map fun field => (field.2.1, Form.flag field.2.2) := rfl
  rw [split, List.mem_append, List.mem_append, List.mem_append, or_assoc, or_assoc]
  refine or_congr ?_ (or_congr ?_ (or_congr ?_ ?_))
  · simp
  · simp
  · simp
  · simp [-Bool.exists_bool]

/-- What a form of the parameters stands for is given by a field. -/
theorem gives_of_denotes (isPair : (name, form) ∈ cabinet.parameters)
    (denotes : Denotes form value) : cabinet.Gives name value := by
  rcases mem_parameters_iff.mp isPair with
    ⟨measure, isField, rfl⟩ | ⟨count, isField, rfl⟩ | ⟨field, thickness, isField, rfl⟩ |
      ⟨field, flag, isField, rfl⟩
  · cases denotes
    exact .dimension isField
  · cases denotes with
    | integer _ isNearest => exact .count isField isNearest
  · cases denotes
    exact .thickness isField
  · cases denotes
    exact .choice isField

/-- What a field of a bindable cabinet gives is what a form of the parameters stands for. -/
theorem exists_form_of_gives (bindable : cabinet.Bindable) (gives : cabinet.Gives name value) :
    ∃ form, (name, form) ∈ cabinet.parameters ∧ Denotes form value := by
  cases gives with
  | dimension isField => exact ⟨_, mem_parameters_iff.mpr (.inl ⟨_, isField, rfl⟩), .real _⟩
  | count isField isNearest =>
      exact ⟨_, mem_parameters_iff.mpr (.inr (.inl ⟨_, isField, rfl⟩)),
        .integer (bindable.counts _ _ isField) isNearest⟩
  | thickness isField =>
      exact ⟨_, mem_parameters_iff.mpr (.inr (.inr (.inl ⟨_, _, isField, rfl⟩))), .real _⟩
  | choice isField =>
      exact ⟨_, mem_parameters_iff.mpr (.inr (.inr (.inr ⟨_, _, isField, rfl⟩))), .flag _⟩

/-- A count of at most the largest finite number has a nearest one. -/
theorem exists_nearest {count : Nat} (bounded : count ≤ Value.largestWhole) :
    ∃ nearest, ofInt count = .finite nearest := by
  have limited : Value.largestWhole < wholeLimit := by decide +kernel
  exact exists_ofInt_iff.mpr (Nat.lt_of_le_of_lt bounded limited)

/-- Every parameter of a bindable cabinet stands for a value. -/
theorem exists_denotes (bindable : cabinet.Bindable) (isPair : (name, form) ∈ cabinet.parameters) :
    ∃ value, Denotes form value := by
  rcases mem_parameters_iff.mp isPair with
    ⟨measure, isField, rfl⟩ | ⟨count, isField, rfl⟩ | ⟨field, thickness, isField, rfl⟩ |
      ⟨field, flag, isField, rfl⟩
  · exact ⟨_, .real _⟩
  · have bounded := bindable.counts name count isField
    obtain ⟨nearest, isNearest⟩ := exists_nearest bounded
    exact ⟨_, .integer bounded isNearest⟩
  · obtain ⟨number, rfl⟩ := bindable.thicknesses field name thickness isField
    exact ⟨_, .real number⟩
  · exact ⟨_, .flag flag⟩

/-- Every parameter of a cabinet gets a value of its kind. -/
theorem Gives.kind (gives : cabinet.Gives name value) :
    Parameter.kind? name = some value.kind := by
  cases gives with
  | dimension isField =>
      have isNamed : name ∈ cabinet.dimensions.fields.map Prod.fst := List.mem_map_of_mem isField
      have areNumbers : ["width", "height", "depth"] ⊆ Parameter.numbers := by decide
      exact Parameter.kind_of_mem_numbers (areNumbers isNamed)
  | count isField =>
      have isNamed : name ∈ cabinet.counts.map Prod.fst := List.mem_map_of_mem isField
      have areNumbers : ["doorCount", "drawerCount"] ⊆ Parameter.numbers := by decide
      exact Parameter.kind_of_mem_numbers (areNumbers isNamed)
  | thickness isField =>
      have isNamed : name ∈ cabinet.thicknesses.fields.map fun field => field.2.1 :=
        List.mem_map_of_mem isField
      have areNumbers : ["side", "topBottom", "back", "shelf", "door", "drawer", "fixedPanel",
          "drawerBottom", "uprights", "doubleBack"] ⊆ Parameter.numbers := by decide
      exact Parameter.kind_of_mem_numbers (areNumbers isNamed)
  | choice isField =>
      have isNamed : name ∈ cabinet.construction.fields.map fun field => field.2.1 :=
        List.mem_map_of_mem isField
      exact Parameter.kind_of_mem_flags isNamed

/-- The parameters of a cabinet as a table. -/
def parameterTable (cabinet : Cabinet) : OrderedMap String Form :=
  ⟨cabinet.parameters, cabinet.distinct_parameters⟩

/-- The parameters are acceptable exactly when the cabinet is bindable. -/
theorem acceptable_iff : Acceptable cabinet.parameterTable ↔ cabinet.Bindable := by
  constructor
  · intro acceptable
    constructor
    · intro name count isField
      obtain ⟨value, denotes, -⟩ :=
        acceptable _ (mem_parameters_iff.mpr (.inr (.inl ⟨count, isField, rfl⟩)))
      cases denotes with
      | integer bounded => exact bounded
    · intro field name thickness isField
      obtain ⟨value, denotes, -⟩ :=
        acceptable _ (mem_parameters_iff.mpr (.inr (.inr (.inl ⟨field, thickness, isField, rfl⟩))))
      cases denotes with
      | real number => exact ⟨number, rfl⟩
  · rintro bindable ⟨name, form⟩ isPair
    obtain ⟨value, denotes⟩ := exists_denotes bindable isPair
    exact ⟨value, denotes, (gives_of_denotes isPair denotes).kind⟩

theorem exists_bindings_iff :
    (∃ bindings, cabinet.bindings = .ok bindings) ↔ cabinet.Bindable :=
  exists_ofPairs_iff.trans acceptable_iff

/-- A bound parameter has the value that a field gives it, and every given parameter is bound. -/
theorem get_bindings_iff (isOk : cabinet.bindings = .ok bindings) :
    bindings.get? name = some value ↔ cabinet.Gives name value := by
  have binds : bindings.Binds cabinet.parameterTable := ofPairs_entries_eq_ok_iff.mp isOk
  have bound {name : String} {form : Form} (isPair : (name, form) ∈ cabinet.parameters) :
      ∃ value, Denotes form value ∧ bindings.get? name = some value :=
    binds.denotes name form ((cabinet.parameterTable.get_eq_some_iff name form).mpr isPair)
  constructor
  · intro isBound
    have isName : name ∈ bindings.names :=
      List.mem_map_of_mem ((bindings.table.get_eq_some_iff name value).mp isBound)
    rw [binds.names_eq] at isName
    obtain ⟨⟨_, form⟩, isPair, rfl⟩ := List.mem_map.mp isName
    obtain ⟨found, denotes, isFound⟩ := bound isPair
    obtain rfl := Option.some.inj (isFound.symm.trans isBound)
    exact gives_of_denotes isPair denotes
  · intro gives
    obtain ⟨form, isPair, denotes⟩ :=
      exists_form_of_gives (exists_bindings_iff.mp ⟨bindings, isOk⟩) gives
    obtain ⟨found, isDenoted, isFound⟩ := bound isPair
    rw [isFound, denotes.unique isDenoted]

/-- The parameters of a cabinet are numbers and flags. -/
theorem isSome_amount_of_mem (isPair : (name, form) ∈ cabinet.parameters) :
    form.amount?.isSome = true := by
  rcases mem_parameters_iff.mp isPair with
    ⟨_, _, rfl⟩ | ⟨_, _, rfl⟩ | ⟨_, _, _, rfl⟩ | ⟨_, _, _, rfl⟩ <;> rfl

theorem exists_denotes_of_readEntry {entry : Form.Checked Value}
    (isPair : (name, form) ∈ cabinet.parameters) (isRead : readEntry form = .ok entry) :
    ∃ value, Denotes form value := by
  refine (denotes_or_notFinite (isSome_amount_of_mem isPair)).resolve_right ?_
  rintro ⟨literal, refused⟩
  rw [readEntry_of_notFinite refused] at isRead
  contradiction

/-- A cabinet is bindable when every single parameter can be read. -/
theorem bindable_of_readEntries {entries : List (Form.Checked (String × Value))}
    (isRead : readEntries cabinet.parameters = .ok entries) : cabinet.Bindable := by
  refine acceptable_iff.mp fun ⟨name, form⟩ isPair => ?_
  obtain ⟨entry, isEntry⟩ := exists_entry_of_readEntries isRead _ isPair
  obtain ⟨value, denotes⟩ := exists_denotes_of_readEntry isPair isEntry
  exact ⟨value, denotes, (gives_of_denotes isPair denotes).kind⟩

/-- A cabinet that does not bind its parameters fails at the first one that is not finite. -/
theorem exists_first_of_bindings {error : FormError} (fails : cabinet.bindings = .error error) :
    ∃ before pair after literal, cabinet.parameters = before ++ pair :: after ∧
      (∀ earlier ∈ before, ∃ value, cabinet.Gives earlier.1 value) ∧
      Value.ofForm pair.2 = .error (.notFinite literal) ∧
      error = .faulty [⟨["params"], .rule (Value.Refusal.notFinite literal).message⟩] := by
  cases isRead : readEntries cabinet.parameters with
  | ok entries =>
      obtain ⟨bindings, isBound⟩ := exists_bindings_iff.mpr (bindable_of_readEntries isRead)
      cases isBound.symm.trans fails
  | error stopped =>
      cases (ofPairs_of_readEntries isRead).symm.trans fails
      obtain ⟨before, ⟨name, form⟩, after, isSplit, areRead, isCulprit⟩ :=
        exists_first_of_readEntries isRead
      have isParameter {pair : String × Form} (isMember : pair ∈ before ++ (name, form) :: after) :
          pair ∈ cabinet.parameters := isSplit ▸ isMember
      have notRead : ¬ ∃ value, Denotes form value := by
        rintro ⟨value, denotes⟩
        rw [readEntry_eq_ok_iff.mpr denotes] at isCulprit
        contradiction
      have isAmount := isSome_amount_of_mem (isParameter (List.mem_append_cons_self))
      obtain ⟨literal, refused⟩ := (denotes_or_notFinite isAmount).resolve_left notRead
      refine ⟨before, (name, form), after, literal, isSplit, fun earlier isEarlier => ?_, refused,
        ?_⟩
      · have isPair := isParameter (List.mem_append_left _ isEarlier)
        obtain ⟨entry, isEntry⟩ := areRead _ isEarlier
        obtain ⟨value, denotes⟩ := exists_denotes_of_readEntry isPair isEntry
        exact ⟨value, gives_of_denotes isPair denotes⟩
      · rw [readEntry_of_notFinite refused] at isCulprit
        exact (Except.error.inj isCulprit).symm

/-- A cabinet binds its parameters exactly when no count is beyond the finite numbers and every
thickness that is given is finite. Then it binds its dimensions, its counts, the given thicknesses
and all choices to what its fields give, in this order, and nothing else. Otherwise it fails with
one fault, which shows the first parameter that is not finite. -/
theorem bindings_exact (cabinet : Cabinet) :
    ((∃ bindings, cabinet.bindings = .ok bindings) ↔ cabinet.Bindable) ∧
    (∀ bindings, cabinet.bindings = .ok bindings →
      bindings.names = ["width", "height", "depth", "doorCount", "drawerCount"] ++
        cabinet.thicknesses.names ++ Parameter.flags ∧
      ∀ name value, bindings.get? name = some value ↔ cabinet.Gives name value) ∧
    ∀ error, cabinet.bindings = .error error →
      ∃ before pair after literal, cabinet.parameters = before ++ pair :: after ∧
        (∀ earlier ∈ before, ∃ value, cabinet.Gives earlier.1 value) ∧
        Value.ofForm pair.2 = .error (.notFinite literal) ∧
        error = .faulty [⟨["params"], .rule (Value.Refusal.notFinite literal).message⟩] := by
  refine ⟨exists_bindings_iff, fun bindings isOk => ⟨?_, fun name value => get_bindings_iff isOk⟩,
    fun error fails => exists_first_of_bindings fails⟩
  have binds : bindings.Binds cabinet.parameterTable := ofPairs_entries_eq_ok_iff.mp isOk
  rw [binds.names_eq, ← map_fst_parameters]
  rfl

/-- An infinite thickness is accepted and cannot be bound, and neither can a count beyond the finite
numbers. -/
theorem exists_accepted_unbound :
    let name : String × Form := ("name", .text "unit")
    let dimensions : String × Form := ("dimensions", .record
      [("width", .integer 600), ("height", .integer 720), ("depth", .integer 560)])
    let thickness : String × Form := ("thickness", .record [("side", .real (.infinite false))])
    let doors : String × Form := ("door_count", .integer (Nat.pow 10 309))
    (∃ cabinet, ofFields [name, dimensions, thickness] = .ok cabinet ∧
      ¬ ∃ bindings, cabinet.bindings = .ok bindings) ∧
    ∃ cabinet, ofFields [name, dimensions, doors] = .ok cabinet ∧
      ¬ ∃ bindings, cabinet.bindings = .ok bindings := by
  intro name dimensions thickness doors
  have endless : (ofFields [name, dimensions, thickness]).toOption.any
      (fun cabinet => cabinet.thicknesses.side = .infinite false) = true := by decide +kernel
  have countless : (ofFields [name, dimensions, doors]).toOption.any
      (fun cabinet => cabinet.doorCount = Nat.pow 10 309) = true := by decide +kernel
  constructor
  · obtain ⟨cabinet, accepted, isSide⟩ := Except.any_toOption_iff.mp endless
    refine ⟨cabinet, accepted, fun isBound => ?_⟩
    have isField : ("side", "side", some cabinet.thicknesses.side) ∈ cabinet.thicknesses.fields :=
      List.mem_cons_self
    obtain ⟨number, isFinite⟩ :=
      (exists_bindings_iff.mp isBound).thicknesses _ _ _ isField
    rw [of_decide_eq_true isSide] at isFinite
    contradiction
  · obtain ⟨cabinet, accepted, isCount⟩ := Except.any_toOption_iff.mp countless
    refine ⟨cabinet, accepted, fun isBound => ?_⟩
    have isField : ("doorCount", cabinet.doorCount) ∈ cabinet.counts := List.mem_cons_self
    have bounded := (exists_bindings_iff.mp isBound).counts _ _ isField
    have beyond : ¬ Nat.pow 10 309 ≤ Value.largestWhole := by decide +kernel
    rw [of_decide_eq_true isCount] at bounded
    exact beyond bounded

end Cabinet

end Casework
