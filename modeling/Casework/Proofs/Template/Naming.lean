import Casework.Template.Basic
import Mathlib.Data.List.Nodup

namespace Casework

/-- The characters before the first point are the panel. -/
theorem takeWhile_qualifiedName (panel : PanelName) (property : String) :
    (qualifiedName panel.text property).toList.takeWhile (· != '.') = panel.text.toList := by
  have noPoint : ∀ character ∈ panel.text.toList, (character != '.') = true := by
    intro character isMember
    rw [bne_iff_ne]
    rintro rfl
    exact panel.noPoint isMember
  have split : (qualifiedName panel.text property).toList =
      panel.text.toList ++ ('.' :: property.toList) := by
    simp [qualifiedName]
  rw [split, List.takeWhile_append_of_pos noPoint]
  simp

/-- A qualified name determines its panel and its property. -/
theorem qualifiedName_inj {first second : PanelName} {firstProperty secondProperty : String} :
    qualifiedName first.text firstProperty = qualifiedName second.text secondProperty ↔
      first.text = second.text ∧ firstProperty = secondProperty := by
  constructor
  · intro equal
    have samePanel : first.text = second.text := by
      apply String.ext
      rw [← takeWhile_qualifiedName first firstProperty, equal, takeWhile_qualifiedName]
    refine ⟨samePanel, ?_⟩
    rw [samePanel] at equal
    have sameTail := congrArg String.toList equal
    simp only [qualifiedName, String.toList_append, List.append_cancel_left_eq] at sameTail
    exact String.ext sameTail
  · rintro ⟨samePanel, sameProperty⟩
    rw [samePanel, sameProperty]

/-- The properties of one panel have distinct names. -/
theorem Panel.nodup_sources (panel : Panel) : (panel.sources.map Prod.fst).Nodup := by
  have names : panel.sources.map Prod.fst =
      panel.formulas.keys.map (qualifiedName panel.name.text) := by
    simp [Panel.sources, OrderedMap.keys, Function.comp_def]
  rw [names]
  exact panel.formulas.distinct.map fun _ _ equal => (qualifiedName_inj.mp equal).2

/-- All qualified names of a template are distinct. -/
theorem Template.nodup_sources (template : Template) :
    (template.sources.map Prod.fst).Nodup := by
  unfold Template.sources
  rw [List.map_flatMap, List.nodup_flatMap]
  refine ⟨fun panel _ => panel.nodup_sources, ?_⟩
  refine (List.pairwise_map.mp template.distinct).imp ?_
  intro first second different name isFirst isSecond
  obtain ⟨_, inFirst, rfl⟩ := List.mem_map.mp isFirst
  obtain ⟨_, inSecond, equal⟩ := List.mem_map.mp isSecond
  obtain ⟨_, _, rfl⟩ := List.mem_map.mp inFirst
  obtain ⟨_, _, rfl⟩ := List.mem_map.mp inSecond
  exact different (qualifiedName_inj.mp equal).1.symm

end Casework
