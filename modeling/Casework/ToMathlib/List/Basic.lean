import Mathlib.Data.List.Forall2

namespace List

section

variable {Item : Type} [DecidableEq Item]

/-- A known item leaves the first occurrences as they are, and a new one comes last. -/
theorem eraseDups_append_singleton (items : List Item) (item : Item) :
    (items ++ [item]).eraseDups =
      if item ∈ items then items.eraseDups else items.eraseDups ++ [item] := by
  rw [eraseDups_append]
  by_cases known : item ∈ items
  · simp [known, removeAll]
  · have alone : [item].eraseDups = [item] := rfl
    simp [known, removeAll, alone]

theorem nodup_eraseDups (items : List Item) : items.eraseDups.Nodup := by
  match items with
  | [] => exact nodup_nil
  | first :: rest =>
      have shorter : (rest.filter fun item => !item == first).length < rest.length + 1 :=
        Nat.lt_succ_of_le (length_filter_le _ rest)
      rw [eraseDups_cons, nodup_cons]
      refine ⟨by simp, nodup_eraseDups _⟩
termination_by items.length

theorem eraseDups_of_nodup {items : List Item} (distinct : items.Nodup) :
    items.eraseDups = items := by
  induction items with
  | nil => rfl
  | cons first rest inductionHypothesis =>
      rw [nodup_cons] at distinct
      have others : (rest.filter fun item => !item == first) = rest := by
        refine filter_eq_self.mpr fun item isMember => ?_
        have different : item ≠ first := fun equal => distinct.1 (equal ▸ isMember)
        simpa using different
      rw [eraseDups_cons, others, inductionHypothesis distinct.2]

end

/-- What two lists say about the members of a third is joined member by member. -/
theorem Forall₂.of_common {First Second Third : Type} {left : First → Second → Prop}
    {right : First → Third → Prop} {joint : Second → Third → Prop} {common : List First}
    {seconds : List Second} {thirds : List Third} (isLeft : Forall₂ left common seconds)
    (isRight : Forall₂ right common thirds)
    (joined : ∀ first ∈ common, ∀ second third, left first second → right first third →
      joint second third) : Forall₂ joint seconds thirds := by
  induction isLeft generalizing thirds with
  | nil =>
      cases isRight
      exact .nil
  | cons isFirst _ inductionHypothesis =>
      cases isRight with
      | cons isOther others =>
          obtain ⟨joinedFirst, joinedRest⟩ := forall_mem_cons.mp joined
          exact .cons (joinedFirst _ _ isFirst isOther) (inductionHypothesis others joinedRest)

end List
