/-
# Forms

The window that a figure turns into, with its widgets and the tool bar.
-/

import FigureForm.Color
import FigureForm.Font.Metrics
import FigureForm.Widget.Node

namespace FigureForm

/-- A window with widgets. -/
structure Form where
  title : String
  tag : String
  background : Option Color
  menuBar : Bool
  font : FontSpec
  geometry : Rectangle
  widgets : List WidgetNode
  toolbar : Option WidgetNode

namespace Form

/-- The height against which the positions of the top-level widgets are flipped. -/
def referenceHeight (form : Form) : Coordinate :=
  form.geometry.height

/-- The actions of the tool bar. -/
def actions (form : Form) : List Action :=
  match form.toolbar with
  | some toolbar => toolbar.actions
  | none => []

/-- The number of widgets at every depth of the window. -/
def widgetCount (form : Form) : Nat :=
  WidgetNode.countAll form.widgets

end Form

end FigureForm
