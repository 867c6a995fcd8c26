import Casework.Proofs.Binary64.Finiteness
import Casework.Proofs.Bindings.Editing

namespace Casework

open Binary64

namespace Binary64

/-- No finite number is further from zero than these two. -/
def Finite.largest (negative : Bool) : Finite :=
  ⟨negative, Value.largestWhole * unitsPerOne, by decide +kernel⟩

/-- An integer between the largest finite number and the limit is rounded to the former. -/
theorem ofInt_of_between {whole : Int} (above : Value.largestWhole < whole.natAbs)
    (below : whole.natAbs < wholeLimit) : ofInt whole = .finite (.largest (whole < 0)) := by
  obtain ⟨nearest, isNearest⟩ := exists_ofInt_iff.mpr below
  have isRounding : ofUnits (whole < 0) (whole.natAbs * unitsPerOne) 1 = .finite nearest :=
    isNearest
  have least : roundToGrid (Value.largestWhole * unitsPerOne) 1 =
      Value.largestWhole * unitsPerOne := by decide +kernel
  have greatest : roundToGrid ((wholeLimit - 1) * unitsPerOne) 1 =
      Value.largestWhole * unitsPerOne := by decide +kernel
  have fromBelow := roundToGrid_whole_le (Nat.le_of_lt above)
  have fromAbove := roundToGrid_whole_le (Nat.le_sub_one_of_lt below)
  rw [isNearest, Binary64.finite.injEq, Finite.eq_iff]
  refine ⟨negative_of_ofInt isNearest, ?_⟩
  rw [least] at fromBelow
  rw [greatest] at fromAbove
  rw [count_of_ofUnits isRounding]
  exact Nat.le_antisymm fromAbove fromBelow

end Binary64

namespace Amount

/-- An amount stands in a form as it is. -/
def form : Amount → Form
  | .integer whole => .integer whole
  | .real number => .real number

/-- The amount is an integer beyond the finite numbers that is rounded back to one of them. -/
def IsRoundedBack (amount : Amount) : Prop :=
  ∃ whole : Int, amount = .integer whole ∧ Value.largestWhole < whole.natAbs ∧
    whole.natAbs < wholeLimit

end Amount

namespace Bindings

variable {bindings : Bindings} {name : String} {amount : Amount} {value : Value}

/-- These are the pairs that bind an amount as it stands. -/
def plain (name : String) (amount : Amount) : List (String × Form) := [(name, amount.form)]

/-- These are the pairs that bind an amount in a record of the kind of numbers. -/
def tagged (name : String) (amount : Amount) : List (String × Form) :=
  [(name, .record [("kind", .text Kind.number.name), ("value", amount.form)])]

theorem numberField_form_eq_ok_iff {number : Finite} :
    Form.numberField amount.form = .ok (.finite number) ↔
      amount.nearest? = some (.finite number) := by
  cases amount with
  | integer whole =>
      exact numberField_integer_eq_ok_iff.trans Amount.nearest?_integer_eq_some_iff.symm
  | real real =>
      show Except.ok real = Except.ok (finite number) ↔ some real = some (finite number)
      rw [Except.ok.injEq, Option.some.injEq]

/-- A record stands for the number that is nearest to its amount. -/
theorem denotes_tagged_iff :
    Denotes (.record [("kind", .text Kind.number.name), ("value", amount.form)]) value ↔
      ∃ number, value = .number number ∧ amount.nearest? = some (.finite number) := by
  have noFlag (flag : Bool) : amount.form ≠ .flag flag := by
    cases amount <;> exact Form.noConfusion
  constructor
  · intro denotes
    cases denotes with
    | taggedNumber _ hasForm _ isNumber =>
        cases hasForm
        exact ⟨_, rfl, numberField_form_eq_ok_iff.mp isNumber⟩
    | taggedFlag hasKind =>
        have sameName : Kind.number.name = "boolean" := Form.text.inj (Option.some.inj hasKind)
        exact absurd sameName (by decide)
  · rintro ⟨number, rfl, isNearest⟩
    exact .taggedNumber rfl rfl noFlag (numberField_form_eq_ok_iff.mpr isNearest)

/-- An amount stands for the number that is nearest to it, unless it is rounded back. -/
theorem denotes_plain_iff :
    Denotes amount.form value ↔
      (∃ number, value = .number number ∧ amount.nearest? = some (.finite number)) ∧
        ¬ amount.IsRoundedBack := by
  cases amount with
  | integer whole =>
      simp only [Amount.nearest?_integer_eq_some_iff]
      constructor
      · intro denotes
        cases denotes with
        | integer bounded isNearest =>
            refine ⟨⟨_, rfl, isNearest⟩, ?_⟩
            rintro ⟨_, ⟨⟩, above, _⟩
            exact absurd above (Nat.not_lt.mpr bounded)
      · rintro ⟨⟨number, rfl, isNearest⟩, notRounded⟩
        have below := exists_ofInt_iff.mp ⟨number, isNearest⟩
        refine .integer (Nat.le_of_not_lt fun above => ?_) isNearest
        exact notRounded ⟨whole, rfl, above, below⟩
  | real real =>
      constructor
      · intro denotes
        cases denotes
        exact ⟨⟨_, rfl, rfl⟩, nofun⟩
      · rintro ⟨⟨number, rfl, isNearest⟩, _⟩
        cases isNearest
        exact .real number

/-- A single pair binds its name to what its form stands for. -/
theorem ofPairs_singleton_eq_ok_iff {form : Form} :
    ofPairs [(name, form)] = .ok bindings ↔
      bindings.names = [name] ∧ ∃ value, Denotes form value ∧ bindings.get? name = some value := by
  let pair : OrderedMap String Form := ⟨[(name, form)], by simp⟩
  have isPair : ofPairs pair.entries = .ok bindings ↔ bindings.Binds pair :=
    ofPairs_entries_eq_ok_iff
  refine isPair.trans ⟨fun binds => ⟨binds.names_eq, binds.denotes name form ?_⟩, ?_⟩
  · exact (pair.get_eq_some_iff name form).mpr List.mem_cons_self
  · rintro ⟨isOnly, isBound⟩
    refine ⟨isOnly, fun other found isFound => ?_⟩
    cases List.mem_singleton.mp ((pair.get_eq_some_iff other found).mp isFound)
    exact isBound

/-- A form of the right kind is bound by a single pair. -/
theorem exists_ofPairs_singleton {form : Form} (name : String) (denotes : Denotes form value)
    (isKind : Parameter.kind? name = some value.kind) :
    ∃ bindings, ofPairs [(name, form)] = .ok bindings ∧ bindings.get? name = some value := by
  let single : Bindings := ⟨⟨[(name, value)], by simp⟩, by
    rintro pair isPair
    cases List.mem_singleton.mp isPair
    exact isKind⟩
  have isBound : single.get? name = some value :=
    (single.table.get_eq_some_iff name value).mpr List.mem_cons_self
  exact ⟨single, ofPairs_singleton_eq_ok_iff.mpr ⟨rfl, value, denotes, isBound⟩, isBound⟩

/-- A tagged amount is bound exactly when its nearest number is finite, and then to this number. As
it stands it is bound in the same way, unless it is an integer beyond the finite numbers. Such an
integer is refused as it stands, and tagged it is bound to the largest finite number with its sign,
as long as it is below the limit from which on integers have no finite nearest number. -/
theorem plain_iff_tagged (name : String) (isNumber : name ∈ Parameter.numbers) (amount : Amount) :
    ((∃ bindings, ofPairs (tagged name amount) = .ok bindings) ↔
      ∃ number, amount.nearest? = some (.finite number)) ∧
    (∀ bindings, ofPairs (tagged name amount) = .ok bindings →
      bindings.names = [name] ∧ ∃ number, amount.nearest? = some (.finite number) ∧
        bindings.get? name = some (.number number)) ∧
    (∀ bindings, ofPairs (plain name amount) = .ok bindings ↔
      ofPairs (tagged name amount) = .ok bindings ∧ ¬ amount.IsRoundedBack) ∧
    ∀ whole : Int, amount = .integer whole → amount.IsRoundedBack →
      ∃ bindings, ofPairs (tagged name amount) = .ok bindings ∧
        bindings.get? name = some (.number (.largest (whole < 0))) := by
  have isTagged {number : Finite} (isNearest : amount.nearest? = some (.finite number)) :
      ∃ bindings, ofPairs (tagged name amount) = .ok bindings ∧
        bindings.get? name = some (.number number) :=
    exists_ofPairs_singleton name (denotes_tagged_iff.mpr ⟨number, rfl, isNearest⟩)
      (Parameter.kind_of_mem_numbers isNumber)
  have binds (bindings : Bindings) (isOk : ofPairs (tagged name amount) = .ok bindings) :
      bindings.names = [name] ∧ ∃ number, amount.nearest? = some (.finite number) ∧
        bindings.get? name = some (.number number) := by
    obtain ⟨isOnly, value, denotes, isBound⟩ := ofPairs_singleton_eq_ok_iff.mp isOk
    obtain ⟨number, rfl, isNearest⟩ := denotes_tagged_iff.mp denotes
    exact ⟨isOnly, number, isNearest, isBound⟩
  refine ⟨⟨?_, ?_⟩, binds, fun bindings => ?_, ?_⟩
  · rintro ⟨bindings, isOk⟩
    obtain ⟨-, number, isNearest, -⟩ := binds bindings isOk
    exact ⟨number, isNearest⟩
  · rintro ⟨number, isNearest⟩
    obtain ⟨bindings, isOk, -⟩ := isTagged isNearest
    exact ⟨bindings, isOk⟩
  · rw [plain, tagged, ofPairs_singleton_eq_ok_iff, ofPairs_singleton_eq_ok_iff]
    simp only [denotes_plain_iff, denotes_tagged_iff]
    tauto
  · rintro whole rfl ⟨_, ⟨⟩, above, below⟩
    exact isTagged (Amount.nearest?_integer_eq_some_iff.mpr (ofInt_of_between above below))

/-- The number 600 is bound to a width in both ways. -/
theorem plain_iff_tagged_width :
    "width" ∈ Parameter.numbers ∧ ∃ bindings,
      ofPairs (plain "width" (.integer 600)) = .ok bindings ∧
      ofPairs (tagged "width" (.integer 600)) = .ok bindings := by
  have isNumber : "width" ∈ Parameter.numbers := by decide
  have bounded : ¬ Value.largestWhole < (600 : Int).natAbs := by decide +kernel
  have notRounded : ¬ (Amount.integer 600).IsRoundedBack := by
    rintro ⟨_, ⟨⟩, above, _⟩
    exact bounded above
  have limited : (600 : Int).natAbs < wholeLimit := by decide +kernel
  obtain ⟨number, isNearest⟩ := exists_ofInt_iff.mpr limited
  obtain ⟨isTagged, -, isPlain, -⟩ := plain_iff_tagged "width" isNumber (.integer 600)
  obtain ⟨bindings, isOk⟩ :=
    isTagged.mpr ⟨number, Amount.nearest?_integer_eq_some_iff.mpr isNearest⟩
  exact ⟨isNumber, bindings, (isPlain bindings).mpr ⟨isOk, notRounded⟩, isOk⟩

/-- The integer after the largest finite number is bound to a width when it is tagged, and not as it
stands. -/
theorem exists_tagged_only :
    (∃ bindings, ofPairs (tagged "width" (.integer (Value.largestWhole + 1))) = .ok bindings) ∧
      ¬ ∃ bindings, ofPairs (plain "width" (.integer (Value.largestWhole + 1))) = .ok bindings := by
  have above : Value.largestWhole < ((Value.largestWhole : Int) + 1).natAbs := by decide +kernel
  have below : ((Value.largestWhole : Int) + 1).natAbs < wholeLimit := by decide +kernel
  have isNearest := Amount.nearest?_integer_eq_some_iff.mpr (ofInt_of_between above below)
  constructor
  · obtain ⟨bindings, isOk, -⟩ := exists_ofPairs_singleton "width"
      (denotes_tagged_iff.mpr ⟨_, rfl, isNearest⟩) (Parameter.kind_of_mem_numbers (by decide))
    exact ⟨bindings, isOk⟩
  · rintro ⟨bindings, isOk⟩
    obtain ⟨-, value, denotes, -⟩ := ofPairs_singleton_eq_ok_iff.mp isOk
    exact (denotes_plain_iff.mp denotes).2 ⟨_, rfl, above, below⟩

end Bindings

end Casework
