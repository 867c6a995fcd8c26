import Casework.Proofs.Bindings.Reading

namespace Casework

open Binary64

/-- A kind is found under its name only. -/
theorem Kind.ofName_eq_some_iff {name : String} {kind : Kind} :
    Kind.ofName? name = some kind ↔ name = kind.name := by
  constructor
  · unfold Kind.ofName?
    split
    · rintro ⟨⟩
      rfl
    · rintro ⟨⟩
      rfl
    · exact nofun
  · rintro rfl
    exact Kind.ofName_name kind

namespace Bindings

/-- The form stands for the value. A plain form stands for itself, where an integer stands for the
nearest finite number. A record tells its kind and stands for what its field holds. -/
inductive Denotes : Form → Value → Prop where
  | flag (flag : Bool) : Denotes (.flag flag) (.boolean flag)
  | integer {whole : Int} {nearest : Finite} (bounded : whole.natAbs ≤ Value.largestWhole)
      (isNearest : ofInt whole = .finite nearest) : Denotes (.integer whole) (.number nearest)
  | real (number : Finite) : Denotes (.real (.finite number)) (.number number)
  | taggedNumber {fields : List (String × Form)} {form : Form} {number : Finite}
      (hasKind : Form.field? fields "kind" = some (.text "number"))
      (hasForm : Form.field? fields "value" = some form) (noFlag : ∀ flag, form ≠ .flag flag)
      (isNumber : Form.numberField form = .ok (.finite number)) :
      Denotes (.record fields) (.number number)
  | taggedFlag {fields : List (String × Form)} {flag : Bool}
      (hasKind : Form.field? fields "kind" = some (.text "boolean"))
      (hasFlag : Form.field? fields "value" = some (.flag flag)) :
      Denotes (.record fields) (.boolean flag)

/-- A required field is there and accepted. -/
theorem required_eq_ok_iff {Accepted : Type} {fields : List (String × Form)} {name : String}
    {check : Form → Form.Checked Accepted} {accepted : Accepted} :
    Form.required fields name check = .ok accepted ↔
      ∃ form, Form.field? fields name = some form ∧ check form = .ok accepted := by
  unfold Form.required
  cases Form.field? fields name with
  | none => simp [Form.fault, Form.Checked.under, Except.mapError]
  | some form =>
      constructor
      · exact fun isOk => ⟨form, rfl, Form.Checked.eq_ok_of_under isOk⟩
      · rintro ⟨found, isFound, isOk⟩
        cases isFound
        show Form.Checked.under name (check form) = _
        rw [isOk]
        rfl

/-- A finite field takes the numbers that are finite. -/
theorem finiteField_eq_ok_iff {form : Form} {number : Finite} :
    Form.finiteField form = .ok number ↔ Form.numberField form = .ok (.finite number) := by
  unfold Form.finiteField
  rw [Except.bind_eq_ok_iff]
  constructor
  · rintro ⟨found, isFound, isFinite⟩
    cases found with
    | finite value =>
        cases isFinite
        exact isFound
    | infinite negative => contradiction
    | notNumber => contradiction
  · exact fun isFound => ⟨_, isFound, rfl⟩

theorem numberField_eq_ok_iff {form : Form} {number : Finite} :
    Value.numberField form = .ok number ↔
      (∀ flag, form ≠ .flag flag) ∧ Form.numberField form = .ok (.finite number) := by
  unfold Value.numberField
  split
  · simp [Form.fault]
  · rename_i noFlag
    rw [finiteField_eq_ok_iff]
    exact ⟨fun isNumber => ⟨noFlag, isNumber⟩, fun isNumber => isNumber.2⟩

/-- An integer is read as the nearest number. -/
theorem numberField_integer_eq_ok_iff {whole : Int} {number : Finite} :
    Form.numberField (.integer whole) = .ok (.finite number) ↔ ofInt whole = .finite number := by
  generalize isInteger : Form.integer whole = form
  -- the cases keep the nearest number as it is, where unfolding would compute it
  fun_cases Form.numberField form with
  | case1 other nearest isNearest =>
      cases isInteger
      rw [isNearest, Except.ok.injEq]
  | case2 other notFinite =>
      cases isInteger
      exact ⟨nofun, fun isNearest => absurd isNearest (notFinite _)⟩
  | case3 | case4 | case5 | case6 => contradiction
  | case7 form noInteger => exact absurd isInteger.symm (noInteger whole)

theorem strictFlagField_eq_ok_iff {form : Form} {flag : Bool} :
    Form.strictFlagField form = .ok flag ↔ form = .flag flag := by
  unfold Form.strictFlagField
  split
  · simp
  · rename_i noFlag
    simpa [Form.fault] using noFlag flag

/-- A record is read under the kind that it tells. -/
theorem taggedField_eq_ok_iff {fields : List (String × Form)} {value : Value} :
    Value.taggedField (.record fields) = .ok value ↔
      ∃ kind : Kind, Form.field? fields "kind" = some (.text kind.name) ∧
        Value.ofFields kind fields = .ok value := by
  unfold Value.taggedField Form.taggedField
  dsimp only
  split
  · rename_i missing
    simp [missing, Form.fault]
  · rename_i name found
    cases known : Kind.ofName? name with
    | none =>
        constructor
        · exact nofun
        · rintro ⟨kind, isKind, _⟩
          rw [found] at isKind
          cases isKind
          rw [Kind.ofName_name] at known
          contradiction
    | some kind =>
        obtain rfl := Kind.ofName_eq_some_iff.mp known
        constructor
        · exact fun isOk => ⟨kind, found, Form.Checked.eq_ok_of_under isOk⟩
        · rintro ⟨other, isKind, isOk⟩
          rw [found, Option.some.injEq, Form.text.injEq] at isKind
          have same : Kind.ofName? kind.name = some other := Kind.ofName_eq_some_iff.mpr isKind
          rw [known] at same
          cases same
          show Form.Checked.under kind.name (Value.ofFields kind fields) = _
          rw [isOk]
          rfl
  · rename_i other notText found
    constructor
    · exact nofun
    · rintro ⟨kind, isKind, _⟩
      rw [found] at isKind
      cases isKind
      exact absurd rfl (notText _)

/-- A record of a kind has the value that it stands for. -/
theorem ofFields_eq_ok_iff {kind : Kind} {fields : List (String × Form)} {value : Value}
    (hasKind : Form.field? fields "kind" = some (.text kind.name)) :
    Value.ofFields kind fields = .ok value ↔
      value.kind = kind ∧ Denotes (.record fields) value := by
  cases kind with
  | number =>
      show (Form.required fields "value" Value.numberField).map Value.number = .ok value ↔ _
      rw [Except.map_eq_ok_iff]
      constructor
      · rintro ⟨number, isRead, rfl⟩
        obtain ⟨form, hasForm, isNumber⟩ := required_eq_ok_iff.mp isRead
        obtain ⟨noFlag, isNumber⟩ := numberField_eq_ok_iff.mp isNumber
        exact ⟨rfl, .taggedNumber hasKind hasForm noFlag isNumber⟩
      · rintro ⟨isKind, denotes⟩
        cases denotes with
        | taggedNumber _ hasForm noFlag isNumber =>
            exact ⟨_, required_eq_ok_iff.mpr
              ⟨_, hasForm, numberField_eq_ok_iff.mpr ⟨noFlag, isNumber⟩⟩, rfl⟩
        | taggedFlag => contradiction
  | boolean =>
      show (Form.required fields "value" Form.strictFlagField).map Value.boolean = .ok value ↔ _
      rw [Except.map_eq_ok_iff]
      constructor
      · rintro ⟨flag, isRead, rfl⟩
        obtain ⟨form, hasForm, isFlag⟩ := required_eq_ok_iff.mp isRead
        rw [strictFlagField_eq_ok_iff] at isFlag
        exact ⟨rfl, .taggedFlag hasKind (isFlag ▸ hasForm)⟩
      · rintro ⟨isKind, denotes⟩
        cases denotes with
        | taggedNumber => contradiction
        | taggedFlag _ hasFlag =>
            exact ⟨_, required_eq_ok_iff.mpr ⟨_, hasFlag, rfl⟩, rfl⟩

/-- A record tells the kind of the value that it stands for. -/
theorem Denotes.hasKind {fields : List (String × Form)} {value : Value}
    (denotes : Denotes (.record fields) value) :
    Form.field? fields "kind" = some (.text value.kind.name) := by
  cases denotes with
  | taggedNumber hasKind => exact hasKind
  | taggedFlag hasKind => exact hasKind

/-- A plain form is a value exactly when it stands for one. -/
theorem ofForm_eq_ok_iff {form : Form} (plain : ∀ fields, form ≠ .record fields) {value : Value} :
    Value.ofForm form = .ok value ↔ Denotes form value := by
  constructor
  · intro isOk
    revert isOk
    fun_cases Value.ofForm form with
    | case1 flag =>
        rintro ⟨⟩
        exact .flag flag
    | case2 whole nearest isNearest bounded =>
        rintro ⟨⟩
        exact .integer bounded isNearest
    | case5 number =>
        rintro ⟨⟩
        exact .real number
    | case3 | case4 | case6 | case7 => exact nofun
  · intro denotes
    fun_cases Value.ofForm form with
    | case1 flag =>
        cases denotes
        rfl
    | case2 whole nearest isNearest bounded =>
        cases denotes with
        | integer _ same =>
            rw [isNearest] at same
            cases same
            rfl
    | case3 whole nearest isNearest unbounded =>
        cases denotes with
        | integer bounded => exact absurd bounded unbounded
    | case4 whole notFinite =>
        cases denotes with
        | integer _ isNearest => exact absurd isNearest (notFinite _)
    | case5 number =>
        cases denotes
        rfl
    | case6 number notFinite =>
        cases denotes
        exact absurd rfl (notFinite _)
    | case7 => cases denotes <;> grind

/-- An entry is read without faults as the value that its form stands for. -/
theorem readEntry_eq_ok_iff {form : Form} {value : Value} :
    readEntry form = .ok (.ok value) ↔ Denotes form value := by
  unfold readEntry
  split
  · rename_i fields
    rw [Except.ok.injEq, taggedField_eq_ok_iff]
    constructor
    · rintro ⟨kind, hasKind, isRead⟩
      exact ((ofFields_eq_ok_iff hasKind).mp isRead).2
    · exact fun denotes =>
        ⟨value.kind, denotes.hasKind, (ofFields_eq_ok_iff denotes.hasKind).mpr ⟨rfl, denotes⟩⟩
  · rename_i plain
    rw [← ofForm_eq_ok_iff plain]
    cases Value.ofForm form with
    | ok found => simp
    | error refusal => cases refusal <;> simp

/-- A form stands for at most one value. -/
theorem Denotes.unique {form : Form} {first second : Value} (isFirst : Denotes form first)
    (isSecond : Denotes form second) : first = second := by
  rw [← readEntry_eq_ok_iff] at isFirst isSecond
  rw [isFirst] at isSecond
  exact Except.ok.inj (Except.ok.inj isSecond)

/-- The form of a value stands for the value. -/
theorem denotes_form (value : Value) : Denotes value.form value := by
  cases value with
  | number number => exact .real number
  | boolean flag => exact .flag flag

end Bindings

end Casework
