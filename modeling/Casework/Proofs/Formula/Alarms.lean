import Casework.Bindings.Basic
import Casework.Proofs.Formula.Kinds

namespace Casework

/-- This is the unknown name that a problem reports. -/
def Problem.undefinedName? : Problem → Option String
  | .undefinedParameter name => some name
  | _ => none

namespace Expression

variable {parameters : String → Option Value} {kinds : String → Option Kind} {tree : Expression}

/-- The names that are reported are the unknown names, in their order. -/
theorem filterMap_undefinedName_problems :
    (tree.problems kinds).filterMap Problem.undefinedName? = tree.unknownNames kinds := by
  have names : ((tree.unknownNames kinds).map Problem.undefinedParameter).filterMap
      Problem.undefinedName? = tree.unknownNames kinds := by
    rw [List.filterMap_map]
    exact List.filterMap_some
  have conditions : ∀ count, (List.replicate count (Problem.kindMismatch .boolean .number
      "ternary condition")).filterMap Problem.undefinedName? = [] := fun count => by
    rw [List.filterMap_replicate_of_none rfl]
  rw [problems_eq, List.filterMap_append, List.filterMap_append, names, conditions]
  split <;> simp [Problem.undefinedName?]

/-- Every conditional whose condition is a number is reported once. -/
theorem count_condition_problems :
    (tree.problems kinds).count (.kindMismatch .boolean .number "ternary condition") =
      tree.subtrees.countP (hasNumberCondition kinds) := by
  have names : ((tree.unknownNames kinds).map Problem.undefinedParameter).count
      (.kindMismatch .boolean .number "ternary condition") = 0 :=
    List.count_eq_zero.mpr (by simp)
  rw [problems_eq, List.count_append, List.count_append, names, List.count_replicate_self]
  split <;> simp

/-- A name is reported exactly when it is unknown. -/
theorem mem_undefined_problems_iff {name : String} :
    .undefinedParameter name ∈ tree.problems kinds ↔ name ∈ tree.unknownNames kinds := by
  rw [← filterMap_undefinedName_problems, List.mem_filterMap]
  constructor
  · exact fun isProblem => ⟨_, isProblem, rfl⟩
  · rintro ⟨problem, isProblem, hasName⟩
    cases problem <;> cases hasName
    exact isProblem

/-- The result is reported exactly when the formula is a flag. -/
theorem mem_result_problem_iff :
    .kindMismatch .number .boolean "formula result" ∈ tree.problems kinds ↔
      tree.kind? kinds = some .boolean := by
  simp [problems_eq, List.mem_replicate]

/-- A tree whose kind is a flag never evaluates to a number. -/
theorem evaluateNumber_ne_ok (respects : tree.Respects parameters kinds)
    (isFlag : tree.kind? kinds = some .boolean) (result : Binary64.Finite) :
    tree.evaluateNumber parameters ≠ .ok result := by
  intro hasNumber
  have isBoolean := kind_of_evaluate respects (evaluateNumber_eq_ok_iff.mp hasNumber) isFlag
  contradiction

/-- A conditional whose condition is a number always fails. -/
theorem exists_failure_of_hasNumberCondition (respects : tree.Respects parameters kinds)
    (hasNumber : tree.hasNumberCondition kinds = true) :
    ∃ failure, tree.evaluate parameters = .error failure := by
  cases tree with
  | conditional condition thenBranch elseBranch =>
      cases evaluated : (conditional condition thenBranch elseBranch).evaluate parameters with
      | error failure => exact ⟨failure, rfl⟩
      | ok value =>
          obtain ⟨flag, hasFlag, _⟩ := evaluate_conditional_eq_ok_iff.mp evaluated
          have ofCondition := (List.forall_mem_append.mp respects).1
          have isNumber := kind_of_evaluate ofCondition hasFlag (of_decide_eq_true hasNumber)
          contradiction
  | _ => contradiction

/-- Suppose that the bound values agree with the kinds wherever both are known. A value has the
kind of its tree, a tree that is reported for its result never is a number, and each conditional
that is reported for its condition fails. The reports name each unknown parameter once, in the
order of the characters, and there is one for each conditional whose condition is a number. A name
that is unknown among the canonical parameters cannot be bound at all. -/
theorem problems_reliable (tree : Expression) (kinds : String → Option Kind) (bindings : Bindings)
    (agree : ∀ name value kind,
      bindings.get? name = some value → kinds name = some kind → value.kind = kind) :
    (∀ value kind, tree.evaluate bindings.get? = .ok value → tree.kind? kinds = some kind →
      value.kind = kind) ∧
    ((tree.problems kinds).getLast? = some (.kindMismatch .number .boolean "formula result") →
      ∀ result, tree.evaluateNumber bindings.get? ≠ .ok result) ∧
    (∀ part ∈ tree.subtrees, part.hasNumberCondition kinds = true →
      ∃ failure, part.evaluate bindings.get? = .error failure) ∧
    (∀ name, .undefinedParameter name ∈ tree.problems Parameter.kind? →
      ∀ others : Bindings, others.get? name = none) ∧
    (tree.problems kinds).count (.kindMismatch .boolean .number "ternary condition") =
      tree.subtrees.countP (hasNumberCondition kinds) ∧
    ((tree.problems kinds).filterMap Problem.undefinedName?).Pairwise (· < ·) ∧
    ∀ name, name ∈ (tree.problems kinds).filterMap Problem.undefinedName? ↔
      .parameter name ∈ tree.subtrees ∧ kinds name = none := by
  have respects : ∀ part : Expression, part.Respects bindings.get? kinds :=
    fun part name _ => agree name
  refine ⟨fun value kind hasValue inferred => kind_of_evaluate (respects tree) hasValue inferred,
    fun isLast => ?_, fun part _ => exists_failure_of_hasNumberCondition (respects part),
    fun name isReported others => ?_, count_condition_problems, ?_, fun name => ?_⟩
  · exact evaluateNumber_ne_ok (respects tree)
      (mem_result_problem_iff.mp (List.mem_of_getLast? isLast))
  · obtain ⟨_, isUnknown⟩ := mem_unknownNames_iff.mp (mem_undefined_problems_iff.mp isReported)
    cases found : others.get? name with
    | none => rfl
    | some value =>
        rw [Bindings.kind_of_get found] at isUnknown
        contradiction
  · rw [filterMap_undefinedName_problems]
    exact (pairwise_names tree).filter _
  · rw [filterMap_undefinedName_problems]
    exact mem_unknownNames_iff

/-- Both branches are a conditional on a number, and both mention an unknown parameter. -/
theorem problems_nested_choices :
    let choice : Expression := .conditional (.parameter "width") (.parameter "hasBack")
      (.parameter "glass")
    let tree : Expression := .conditional (.parameter "hasBack") choice choice
    let bindings : Bindings :=
      ⟨⟨[("width", .number Value.one), ("hasBack", .boolean true)], by decide⟩, by decide +kernel⟩
    (∀ name value kind, bindings.get? name = some value → Parameter.kind? name = some kind →
      value.kind = kind) ∧
    (tree.problems Parameter.kind?).count (.kindMismatch .boolean .number "ternary condition") =
      2 ∧
    (∃ failure, choice.evaluate bindings.get? = .error failure) ∧
    "glass" ∈ (tree.problems Parameter.kind?).filterMap Problem.undefinedName? := by
  intro choice tree bindings
  have agree : ∀ name value kind, bindings.get? name = some value →
      Parameter.kind? name = some kind → value.kind = kind := by
    intro name value kind found inferred
    rw [Bindings.kind_of_get found] at inferred
    exact Option.some.inj inferred
  obtain ⟨_, _, fails, _, counted, _, named⟩ :=
    problems_reliable tree Parameter.kind? bindings agree
  refine ⟨agree, counted, fails choice ?_ (by decide +kernel), (named "glass").mpr ?_⟩
  · exact List.mem_cons_of_mem _ (by simp [choice, subtrees])
  · exact ⟨by simp [tree, choice, subtrees], by decide +kernel⟩

end Expression

end Casework
