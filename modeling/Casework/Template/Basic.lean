import Casework.Binary64.Basic
import Casework.OrderedMap
import Casework.Text.Blank

namespace Casework

/-- The name of a panel stands before the point of a qualified name, so it has no point of its
own. -/
structure PanelName where
  text : String
  noPoint : '.' ∉ text.toList := by decide +kernel
  notBlank : Text.isBlankText text = false := by decide +kernel
  deriving DecidableEq

namespace PanelName

/-- These are the reasons to refuse a panel name. -/
inductive Refusal where
  | hasPoint
  | blank
  deriving DecidableEq

def Refusal.message : Refusal → String
  | .hasPoint => "panel names may not contain '.'"
  | .blank => "panel name is required"

def ofText (text : String) : Except Refusal PanelName :=
  if hasPoint : '.' ∈ text.toList then .error .hasPoint
  else if blank : Text.isBlankText text = true then .error .blank
  else .ok ⟨text, hasPoint, by simpa using blank⟩

@[simp]
theorem ofText_text (name : PanelName) : ofText name.text = .ok name := by
  simp [ofText, name.noPoint, name.notBlank]

end PanelName

/-- A panel has one formula text for each of its attributes. Its thickness is the value of the
first bound thickness parameter, or else the fixed thickness. -/
structure Panel where
  name : PanelName
  formulas : OrderedMap String String
  quantity : Nat
  thicknessParameters : List String
  thickness : Option Binary64

/-- A qualified name joins a panel and one of its attributes. -/
def qualifiedName (panel property : String) : String := panel ++ "." ++ property

/-- These are the qualified names of a panel with their formula texts. -/
def Panel.sources (panel : Panel) : List (String × String) :=
  panel.formulas.entries.map fun entry => (qualifiedName panel.name.text entry.1, entry.2)

/-- A template is a list of panels with distinct names. -/
structure Template where
  name : String
  panels : List Panel
  distinct : (panels.map fun panel => panel.name.text).Nodup

namespace Template

/-- These are all qualified names with their formula texts in the order of the panels. -/
def sources (template : Template) : List (String × String) :=
  template.panels.flatMap Panel.sources

/-- The texts of a template are the formulas of its panels under their qualified names. -/
theorem mem_sources_iff {template : Template} {name source : String} :
    (name, source) ∈ template.sources ↔
      ∃ panel ∈ template.panels, ∃ property, (property, source) ∈ panel.formulas.entries ∧
        qualifiedName panel.name.text property = name := by
  simp [sources, Panel.sources]

def panel? (template : Template) (name : String) : Option Panel :=
  template.panels.find? fun panel => panel.name.text == name

/-- This is the first name that stands in the list before, or among the given earlier names. -/
def firstRepeated? (earlier : List String) : List String → Option String
  | [] => none
  | name :: rest =>
    if name ∈ earlier then some name else firstRepeated? (name :: earlier) rest

theorem firstRepeated_eq_none_iff (earlier names : List String) :
    firstRepeated? earlier names = none ↔ names.Nodup ∧ ∀ name ∈ names, name ∉ earlier := by
  induction names generalizing earlier with
  | nil => simp [firstRepeated?]
  | cons name rest inductionHypothesis =>
      unfold firstRepeated?
      by_cases known : name ∈ earlier
      · simp [known]
      · rw [if_neg known, inductionHypothesis, List.nodup_cons]
        constructor
        · rintro ⟨distinct, others⟩
          refine ⟨⟨fun again => others name again (by simp), distinct⟩, ?_⟩
          intro other isMember
          rcases List.mem_cons.mp isMember with same | inRest
          · rw [same]
            exact known
          · exact fun isKnown => others other inRest (List.mem_cons_of_mem _ isKnown)
        · rintro ⟨⟨isNew, distinct⟩, others⟩
          refine ⟨distinct, fun other inRest isKnown => ?_⟩
          rcases List.mem_cons.mp isKnown with same | isEarlier
          · exact isNew (same ▸ inRest)
          · exact others other (List.mem_cons_of_mem _ inRest) isEarlier

/-- A repeated panel name refuses the whole list. -/
def distinctPanels (panels : List Panel) :
    Except String { accepted : List Panel //
      (accepted.map fun panel => panel.name.text).Nodup } :=
  match repeated : firstRepeated? [] (panels.map fun panel => panel.name.text) with
  | some again => .error again
  | none => .ok ⟨panels, ((firstRepeated_eq_none_iff [] _).mp repeated).1⟩

end Template

end Casework
