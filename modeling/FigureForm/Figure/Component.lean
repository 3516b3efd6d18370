/-
# Components

Which kind of widget a component of a figure becomes, after its type and, for controls, its style.
-/

import FigureForm.Widget.Kind

namespace FigureForm

/-- A type and style that no kind of widget stands for. -/
structure Unrecognized where
  type : String
  style : String
  deriving DecidableEq, Repr

/-- What is said about such a component. -/
def Unrecognized.message (unrecognized : Unrecognized) : String :=
  "unrecognized widget: type '" ++ unrecognized.type ++ "', style '" ++ unrecognized.style ++ "'"

namespace WidgetKind

/-- The kind of a control with a style; a control without one is a button. -/
def ofStyle? (style : String) : Option WidgetKind :=
  if style = "" then some .pushButton
  else if style = "text" then some .text
  else if style = "popupmenu" then some .popupMenu
  else if style = "edit" then some .edit
  else if style = "slider" then some .slider
  else if style = "checkbox" then some .checkbox
  else none

/-- The kind of a component with a type and a style. -/
def ofTypeAndStyle (type style : String) : Except Unrecognized WidgetKind :=
  let kind :=
    if type = "axes" then some .axes
    else if type = "uipanel" then some .frame
    else if type = "uitoolbar" then some .toolBar
    else if type = "uicontrol" then ofStyle? style
    else none
  match kind with
  | some kind => .ok kind
  | none => .error ⟨type, style⟩

end WidgetKind

end FigureForm
