import Casework.Form.Field
import Casework.Template.Basic

namespace Casework

open Form

def PanelName.field (form : Form) : Checked PanelName := do
  match PanelName.ofText (← textField form) with
  | .ok name => .ok name
  | .error refusal => fault (.rule refusal.message)

/-- A panel without a quantity is made once. -/
def Panel.ofFields (fields : List (String × Form)) : Checked Panel :=
  let name := required fields "name" PanelName.field
  let formulas := (required fields "formulas" (tableField textField)).map OrderedMap.ofList
  let quantity := optional fields "quantity" 1 countField
  let parameters := optional fields "thickness_params" [] (listField textField)
  let thickness := optional fields "thickness" none (absentOr numberField)
  Checked.apply (name.map Panel.mk) formulas
    |>.apply quantity
    |>.apply parameters
    |>.apply thickness

/-- The names of the panels are compared once all panels are good. -/
def Template.panelsField (form : Form) :
    Checked { accepted : List Panel // (accepted.map fun panel => panel.name.text).Nodup } := do
  match Template.distinctPanels (← listField (recordField Panel.ofFields) form) with
  | .ok accepted => .ok accepted
  | .error again => fault (.rule ("Duplicate panel name: " ++ again))

def Template.ofFields (fields : List (String × Form)) : Checked Template :=
  let name := required fields "name" textField
  let panels := optional fields "panels" ⟨[], List.nodup_nil⟩ Template.panelsField
  Checked.apply (name.map fun name panels => ⟨name, panels.1, panels.2⟩) panels

def Template.ofForm (form : Form) : Checked Template := recordField Template.ofFields form

def Panel.ofForm (form : Form) : Checked Panel := recordField Panel.ofFields form

end Casework
