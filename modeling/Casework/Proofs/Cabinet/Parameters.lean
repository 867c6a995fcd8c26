import Casework.Cabinet.Basic
import Casework.Proofs.Binary64.Finiteness
import Casework.Proofs.Bindings.Denotation

namespace Casework

open Binary64

namespace Cabinet

/-- Every cabinet binds these parameters. -/
def boundNames : List String :=
  ["width", "height", "depth", "doorCount", "drawerCount"] ++
    ["side", "topBottom", "back", "shelf", "door"] ++ Parameter.flags

/-- These are the parameters of the given thicknesses. -/
def Thicknesses.names (thicknesses : Thicknesses) : List String :=
  ((thicknesses.fields.map Prod.snd).filterMap fun field =>
    field.2.map fun thickness => (field.1, Form.real thickness)).map Prod.fst

/-- The names do not depend on the sizes, and neither does their order. -/
theorem map_fst_parameters (cabinet : Cabinet) :
    cabinet.parameters.map Prod.fst =
      ["width", "height", "depth", "doorCount", "drawerCount"] ++ cabinet.thicknesses.names ++
        Parameter.flags := by
  unfold parameters Thicknesses.names
  rw [List.map_append, List.map_append, List.map_append, List.filterMap_map]
  rfl

/-- Five thicknesses are always given, and the other five may follow. -/
theorem Thicknesses.sublist_names (thicknesses : Thicknesses) :
    ["side", "topBottom", "back", "shelf", "door"].Sublist thicknesses.names ∧
      thicknesses.names.Sublist
        ["side", "topBottom", "back", "shelf", "door", "drawer", "fixedPanel", "drawerBottom",
          "uprights", "doubleBack"] := by
  constructor
  · show List.Sublist _ (["side", "topBottom", "back", "shelf", "door"] ++ _)
    exact List.sublist_append_left _ _
  · show thicknesses.names.Sublist ((thicknesses.fields.map Prod.snd).map Prod.fst)
    apply OrderedMap.sublist_filterMap
    intro entry result found
    obtain ⟨thickness, _, rfl⟩ := Option.map_eq_some_iff.mp found
    rfl

/-- No parameter of a cabinet has two values. -/
theorem distinct_parameters (cabinet : Cabinet) :
    (cabinet.parameters.map Prod.fst).Nodup := by
  rw [map_fst_parameters]
  apply List.Nodup.sublist (((List.Sublist.refl _).append
    cabinet.thicknesses.sublist_names.2).append (List.Sublist.refl _))
  decide +kernel

theorem exists_form_of_mem_boundNames (cabinet : Cabinet) {name : String}
    (isBound : name ∈ boundNames) : ∃ form, (name, form) ∈ cabinet.parameters := by
  have sublist : boundNames.Sublist (cabinet.parameters.map Prod.fst) := by
    rw [map_fst_parameters]
    exact ((List.Sublist.refl _).append cabinet.thicknesses.sublist_names.1).append
      (List.Sublist.refl _)
  obtain ⟨⟨_, form⟩, isPair, rfl⟩ := List.mem_map.mp (sublist.subset isBound)
  exact ⟨form, isPair⟩

variable {cabinet : Cabinet} {bindings : Bindings}

/-- A cabinet that binds its parameters binds these names. -/
theorem exists_value_of_mem_boundNames (isOk : cabinet.bindings = .ok bindings) {name : String}
    (isBound : name ∈ boundNames) : ∃ value, bindings.get? name = some value := by
  obtain ⟨form, isPair⟩ := cabinet.exists_form_of_mem_boundNames isBound
  obtain ⟨value, _, found⟩ := Bindings.get_of_ofPairs cabinet.distinct_parameters isOk isPair
  exact ⟨value, found⟩

/-- The parameter is a count above zero. -/
def IsPositiveCount (cabinet : Cabinet) (name : String) : Prop :=
  ∃ count : Nat, (name, Form.integer count) ∈ cabinet.parameters ∧ 0 < count

/-- A count above zero is not rounded to zero. -/
theorem IsPositiveCount.nonzero {name : String} (isCount : cabinet.IsPositiveCount name)
    (isOk : cabinet.bindings = .ok bindings) (value : Value)
    (isFound : bindings.get? name = some value) : value.asNumber.isZero = false := by
  obtain ⟨count, isPair, positive⟩ := isCount
  obtain ⟨read, isRead, found⟩ := Bindings.get_of_ofPairs cabinet.distinct_parameters isOk isPair
  rw [found] at isFound
  cases isFound
  cases Bindings.readEntry_eq_ok_iff.mp isRead with
  | integer _ isNearest => exact isZero_of_ofInt isNearest (by omega)

end Cabinet

end Casework
