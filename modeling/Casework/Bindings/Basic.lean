import Casework.OrderedMap
import Casework.Parameter

namespace Casework

/-- A binding set gives values to canonical parameters, each of the kind of its parameter. -/
structure Bindings where
  table : OrderedMap String Value
  wellKinded : ∀ pair ∈ table.entries, Parameter.kind? pair.1 = some pair.2.kind

namespace Bindings

/-- A pair cannot be bound when its name is not canonical or its value has the other kind. -/
inductive Refusal where
  | notCanonical (name : String)
  | wrongKind (name : String) (expected found : Kind)
  deriving DecidableEq

def Refusal.message : Refusal → String
  | .notCanonical name => "'" ++ name ++ "' is not a canonical cabinet parameter"
  | .wrongKind name expected found =>
    "Parameter '" ++ name ++ "' must be a " ++ expected.name ++ ", got " ++ found.name

def refusal? (name : String) (value : Value) : Option Refusal :=
  match Parameter.kind? name with
  | none => some (.notCanonical name)
  | some expected =>
    if value.kind = expected then none else some (.wrongKind name expected value.kind)

theorem refusal_eq_none_iff (name : String) (value : Value) :
    refusal? name value = none ↔ Parameter.kind? name = some value.kind := by
  unfold refusal?
  cases Parameter.kind? name with
  | none => simp
  | some expected =>
      by_cases same : value.kind = expected
      · simp [same]
      · have different : ¬ expected = value.kind := fun equal => same equal.symm
        simp [same, different]

/-- The first pair that cannot be bound refuses the whole table. -/
def ofTable (table : OrderedMap String Value) : Except Refusal Bindings :=
  match refused : table.entries.findSome? fun pair => refusal? pair.1 pair.2 with
  | some refusal => .error refusal
  | none => .ok ⟨table, fun pair isEntry =>
      (refusal_eq_none_iff pair.1 pair.2).mp (List.findSome?_eq_none_iff.mp refused pair isEntry)⟩

def empty : Bindings := ⟨.empty, by simp [OrderedMap.empty]⟩

instance : Inhabited Bindings := ⟨empty⟩

def get? (bindings : Bindings) (name : String) : Option Value := bindings.table.get? name

def contains (bindings : Bindings) (name : String) : Bool := bindings.table.contains name

def names (bindings : Bindings) : List String := bindings.table.keys

/-- The given names are unbound. -/
def without (bindings : Bindings) (names : List String) : Bindings :=
  ⟨bindings.table.filter fun pair => !names.contains pair.1, fun pair isEntry =>
    bindings.wellKinded pair (List.mem_filter.mp isEntry).1⟩

@[simp]
theorem ofTable_table (bindings : Bindings) : ofTable bindings.table = .ok bindings := by
  have accepted : (bindings.table.entries.findSome? fun pair => refusal? pair.1 pair.2) = none :=
    List.findSome?_eq_none_iff.mpr fun pair isEntry =>
      (refusal_eq_none_iff pair.1 pair.2).mpr (bindings.wellKinded pair isEntry)
  unfold ofTable
  split
  · rename_i refused
    rw [accepted] at refused
    contradiction
  · rfl

/-- A bound value has the kind of its parameter. -/
theorem kind_of_get {bindings : Bindings} {name : String} {value : Value}
    (isBound : bindings.get? name = some value) : Parameter.kind? name = some value.kind :=
  bindings.wellKinded (name, value) ((bindings.table.get_eq_some_iff name value).mp isBound)

end Bindings

end Casework
