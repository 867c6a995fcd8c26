import Casework.Formula.Typing
import Casework.Proofs.Formula.Evaluation
import Casework.ToMathlib.List.Basic
import Mathlib.Data.List.Nodup

namespace Casework

namespace Expression

/-- These are the tree and all trees inside it, in the order of their first characters. -/
def subtrees : Expression → List Expression
  | .number value => [.number value]
  | .parameter name => [.parameter name]
  | .negate operand => .negate operand :: operand.subtrees
  | .binary operator left right =>
    .binary operator left right :: (left.subtrees ++ right.subtrees)
  | .conditional condition thenBranch elseBranch =>
    .conditional condition thenBranch elseBranch ::
      (condition.subtrees ++ (thenBranch.subtrees ++ elseBranch.subtrees))

def name? : Expression → Option String
  | .parameter name => some name
  | _ => none

def condition? : Expression → Option Expression
  | .conditional condition _ _ => some condition
  | _ => none

@[simp]
theorem name_eq_some_iff {tree : Expression} {name : String} :
    tree.name? = some name ↔ tree = .parameter name := by
  cases tree <;> simp [name?]

@[simp]
theorem condition_eq_some_iff {tree condition : Expression} :
    tree.condition? = some condition ↔
      ∃ thenBranch elseBranch, tree = .conditional condition thenBranch elseBranch := by
  cases tree <;> simp [condition?]

/-- The mentions are the names of the parameters among the subtrees. -/
theorem mentions_eq (tree : Expression) : tree.mentions = tree.subtrees.filterMap name? := by
  induction tree with
  | number value => rfl
  | parameter name => rfl
  | negate operand inductionHypothesis => exact inductionHypothesis
  | binary operator left right leftHypothesis rightHypothesis =>
      simp [mentions, subtrees, List.filterMap_cons, name?, leftHypothesis, rightHypothesis]
  | conditional condition thenBranch elseBranch first second third =>
      simp [mentions, subtrees, List.filterMap_cons, name?, first, second, third]

/-- The conditions are those of the conditionals among the subtrees. -/
theorem conditions_eq (tree : Expression) :
    tree.conditions = tree.subtrees.filterMap condition? := by
  induction tree with
  | number value => rfl
  | parameter name => rfl
  | negate operand inductionHypothesis => exact inductionHypothesis
  | binary operator left right leftHypothesis rightHypothesis =>
      simp [conditions, subtrees, List.filterMap_cons, condition?, leftHypothesis, rightHypothesis]
  | conditional condition thenBranch elseBranch first second third =>
      simp [conditions, subtrees, condition?, first, second, third]

/-- A name is mentioned where a parameter of this name stands. -/
theorem mem_mentions_iff {tree : Expression} {name : String} :
    name ∈ tree.mentions ↔ .parameter name ∈ tree.subtrees := by
  simp [mentions_eq]

/-- The conditions are those of the conditionals in the tree. -/
theorem mem_conditions_iff {tree condition : Expression} :
    condition ∈ tree.conditions ↔ ∃ thenBranch elseBranch,
      .conditional condition thenBranch elseBranch ∈ tree.subtrees := by
  simp only [conditions_eq, List.mem_filterMap, condition_eq_some_iff]
  constructor
  · rintro ⟨_, isSubtree, thenBranch, elseBranch, rfl⟩
    exact ⟨thenBranch, elseBranch, isSubtree⟩
  · rintro ⟨thenBranch, elseBranch, isSubtree⟩
    exact ⟨_, isSubtree, thenBranch, elseBranch, rfl⟩

/-- Each mentioned name is listed once, in the order of the characters. -/
theorem pairwise_names (tree : Expression) : tree.names.Pairwise (· < ·) := by
  have sorted : tree.names.Pairwise fun first second => decide (first ≤ second) = true := by
    apply List.pairwise_mergeSort
    · intro first second third
      simp only [decide_eq_true_eq]
      exact String.le_trans
    · intro first second
      simpa using String.le_total first second
  have distinct : tree.names.Nodup :=
    (List.mergeSort_perm _ _).nodup_iff.mpr (List.nodup_eraseDups tree.mentions)
  refine (sorted.and distinct).imp ?_
  rintro first second ⟨ordered, different⟩
  exact Std.lt_of_le_of_ne (of_decide_eq_true ordered) different

variable {kinds : String → Option Kind}

/-- These are the names without a kind. -/
def unknownNames (kinds : String → Option Kind) (tree : Expression) : List String :=
  tree.names.filter fun name => (kinds name).isNone

/-- An unknown name is mentioned and has no kind. -/
theorem mem_unknownNames_iff {tree : Expression} {name : String} :
    name ∈ tree.unknownNames kinds ↔ .parameter name ∈ tree.subtrees ∧ kinds name = none := by
  simp [unknownNames, mem_mentions_iff]

/-- A conditional needs a flag for its condition. -/
def hasNumberCondition (kinds : String → Option Kind) : Expression → Bool
  | .conditional condition _ _ => condition.kind? kinds = some .number
  | _ => false

/-- Conditions that are numbers are counted once for each conditional. -/
theorem length_numberConditions (tree : Expression) :
    (tree.conditions.filter fun condition => condition.kind? kinds = some .number).length =
      tree.subtrees.countP (hasNumberCondition kinds) := by
  rw [← List.countP_eq_length_filter, conditions_eq, List.countP_filterMap]
  congr 1
  funext part
  cases part <;> simp [condition?, hasNumberCondition]

/-- The problems are the unknown names, one problem for each conditional whose condition is a
number, and a last one when the result is a flag. -/
theorem problems_eq (kinds : String → Option Kind) (tree : Expression) :
    tree.problems kinds = (tree.unknownNames kinds).map .undefinedParameter ++
      List.replicate (tree.subtrees.countP (hasNumberCondition kinds))
        (.kindMismatch .boolean .number "ternary condition") ++
      if tree.kind? kinds = some .boolean then [.kindMismatch .number .boolean "formula result"]
      else [] := by
  simp only [problems, failures, List.map_append, List.map_map, Function.comp_def, List.map_const',
    List.map_replicate, length_numberConditions, apply_ite (List.map Failure.problem),
    List.map_cons, List.map_nil]
  rfl

/-- A conditional has a kind when both branches have it. -/
theorem kind_conditional_eq_some_iff {condition thenBranch elseBranch : Expression} {kind : Kind} :
    (conditional condition thenBranch elseBranch).kind? kinds = some kind ↔
      thenBranch.kind? kinds = some kind ∧ elseBranch.kind? kinds = some kind := by
  cases ofThen : thenBranch.kind? kinds with
  | none => simp [kind?, ofThen]
  | some first =>
      cases ofElse : elseBranch.kind? kinds with
      | none => simp [kind?, ofThen, ofElse]
      | some second =>
          simp only [kind?, ofThen, ofElse, Option.some.injEq]
          by_cases same : first = second
          · simp [same]
          · simp only [if_neg same, reduceCtorEq, false_iff, not_and]
            intro isFirst isSecond
            exact same (isFirst.trans isSecond.symm)

/-- The values of the mentioned parameters have the kinds that are given for them. -/
def Respects (parameters : String → Option Value) (kinds : String → Option Kind)
    (tree : Expression) : Prop :=
  ∀ name ∈ tree.mentions, ∀ value kind,
    parameters name = some value → kinds name = some kind → value.kind = kind

variable {parameters : String → Option Value}

/-- A value has the kind that is inferred for its tree. -/
theorem kind_of_evaluate {tree : Expression} (respects : tree.Respects parameters kinds)
    {value : Value} {kind : Kind} (hasValue : tree.evaluate parameters = .ok value)
    (inferred : tree.kind? kinds = some kind) : value.kind = kind := by
  induction tree generalizing value with
  | number literal =>
      cases hasValue
      exact Option.some.inj inferred
  | parameter name =>
      exact respects name (List.mem_singleton_self name) value kind
        (evaluate_parameter_eq_ok_iff.mp hasValue) inferred
  | negate operand inductionHypothesis =>
      obtain ⟨_, _, rfl⟩ := evaluate_negate_eq_ok_iff.mp hasValue
      exact Option.some.inj inferred
  | binary operator left right leftHypothesis rightHypothesis =>
      obtain ⟨_, _, _, _, _, _, rfl⟩ := evaluate_binary_eq_ok_iff.mp hasValue
      exact Option.some.inj inferred
  | conditional condition thenBranch elseBranch first second third =>
      obtain ⟨_, ofBranches⟩ := List.forall_mem_append.mp respects
      obtain ⟨ofThen, ofElse⟩ := List.forall_mem_append.mp ofBranches
      obtain ⟨thenKind, elseKind⟩ := kind_conditional_eq_some_iff.mp inferred
      obtain ⟨flag, _, selected⟩ := evaluate_conditional_eq_ok_iff.mp hasValue
      cases flag with
      | true => exact second ofThen selected thenKind
      | false => exact third ofElse selected elseKind

end Expression

end Casework
