/-
# Windows

The root of a dump describes the window of a form, and its children the widgets.  Frames come
first among the widgets, with what lies inside them; the last tool bar is the form's.
-/

import FigureForm.Figure.Enclosure
import FigureForm.Figure.Tree
import FigureForm.Form
import FigureForm.Record.Loading

namespace FigureForm.Figure

/-- Why a dump describes no form. -/
inductive FormFault
  | rootNotFound (opening : String)
  | missingRootProperties (name : String)
  | missingRootPosition (name : String)
  | overflow (cause : Overflow)
  deriving DecidableEq, Repr

/-- What is said about a dump that describes no form. -/
def FormFault.message : FormFault → String
  | rootNotFound opening => "No top-level variable starts with '" ++ opening ++ "'"
  | missingRootProperties name => "Root variable '" ++ name ++ "' has no properties"
  | missingRootPosition name => "Root variable '" ++ name ++ "' has no usable Position"
  | overflow cause => cause.message

/-- The `MenuBar` that stands for no menu bar. -/
def noMenuBar : String :=
  "none"

/-- How names of root variables start. -/
def standardOpening : String :=
  "hgS_"

/-- What a form depends on besides the dump: the font that it names, the measures of that font and
how the name of the root variable starts. -/
structure FormOptions where
  font : FontSpec
  metrics : FontMetrics
  opening : String

/-- The rectangle of a window, whose position is flipped against its own height. -/
def windowOf (position : Position) (scale : Scale) : Rectangle :=
  position.resolve scale (position.pixelHeight scale)

/-- The widgets built directly inside a window, sorted by what becomes of them, with the remarks on
the tool bars that later ones replaced. -/
structure Sorting where
  frames : List WidgetNode
  others : List WidgetNode
  toolbar : Option WidgetNode
  replacements : List Diagnostic

namespace Sorting

/-- Nothing sorted yet. -/
def start : Sorting :=
  ⟨[], [], none, []⟩

/-- The sorting with one more widget.  A tool bar replaces the one before it. -/
def add (sorting : Sorting) (node : WidgetNode) : Sorting :=
  match node.kind with
  | .frame => { sorting with frames := sorting.frames ++ [node] }
  | .toolBar =>
    let replacement := sorting.toolbar.map fun replaced =>
      Diagnostic.duplicateToolbar replaced.tag node.tag
    { sorting with
      toolbar := some node
      replacements := sorting.replacements ++ replacement.toList }
  | _ => { sorting with others := sorting.others ++ [node] }

/-- Widgets sorted one after the other. -/
def ofNodes (nodes : List WidgetNode) : Sorting :=
  nodes.foldl add start

end Sorting

/-- The form that a dump describes. -/
def formOf (options : FormOptions) (dump : Dump) : Except FormFault (Noted Form) := do
  let some (name, root) := dump.root? options.opening | .error (.rootNotFound options.opening)
  let some properties := properties? root.first | .error (.missingRootProperties name)
  let some position := positionOf? properties | .error (.missingRootPosition name)
  let unit := unitOf (.top "properties") properties
  let window := windowOf position (unit.value.scale options.metrics)
  let components := (root.first.record? "children").getD []
  let nodes := widgetsOf options.metrics window.height (.top "children") 0 components
  let sorting := Sorting.ofNodes nodes.value
  let background := colorOf? properties "Color"
  let colorNotes := if background.isNone then [.missingWindowColor] else []
  match enclose sorting.frames sorting.others with
  | .error cause => .error (.overflow cause)
  | .ok widgets =>
    return {
      value := {
        title := properties.textOrEmpty "Name"
        tag := properties.textOrEmpty "Tag"
        background
        menuBar := properties.text? "MenuBar" != some noMenuBar
        font := options.font
        geometry := window
        widgets
        toolbar := sorting.toolbar }
      notes := unit.notes ++ nodes.notes ++ colorNotes ++ sorting.replacements }

end FigureForm.Figure
