/-
# Widget trees

A widget with its place, its text and the widgets inside it.  Places are relative to the enclosing
widget.  Only frames hold further widgets and only tool bars hold actions in a built form, but a
tree by itself may hold both anywhere.
-/

import FigureForm.Image.Raster
import FigureForm.Rectangle
import FigureForm.Widget.Content
import FigureForm.Widget.Kind

namespace FigureForm

/-- An entry of a tool bar. -/
structure Action where
  name : String
  tooltip : String
  icon : Raster
  deriving DecidableEq

namespace Action

/-- Whether the icon has a pixel. -/
def hasIcon (action : Action) : Bool :=
  action.icon.hasPixels

/-- The name of the icon's file beside the form. -/
def iconFileName (action : Action) : String :=
  action.name ++ ".png"

end Action

/-- A widget and the widgets inside it. -/
structure WidgetNode where
  kind : WidgetKind
  tag : String
  text : Content
  geometry : Rectangle
  styleSheet : Option String
  children : List WidgetNode
  actions : List Action

namespace WidgetNode

/-- A widget without text, place, style, children or actions. -/
def plain (kind : WidgetKind) (tag : String) : WidgetNode where
  kind
  tag
  text := .none
  geometry := .zero
  styleSheet := none
  children := []
  actions := []

instance : Inhabited WidgetNode :=
  ⟨plain .axes ""⟩

/-- Whether the widget is a frame. -/
def isFrame (node : WidgetNode) : Bool :=
  node.kind == .frame

mutual

/-- The number of widgets in a tree, its root included. -/
def count : WidgetNode → Nat
  | ⟨_, _, _, _, _, children, _⟩ => 1 + countAll children

/-- The number of widgets in a list of trees. -/
def countAll : List WidgetNode → Nat
  | [] => 0
  | node :: rest => count node + countAll rest

end

theorem count_eq (node : WidgetNode) : node.count = 1 + countAll node.children := by
  cases node
  rw [count]

end WidgetNode

end FigureForm
