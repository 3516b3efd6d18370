/-
# Kinds of widgets

The widgets that a form can hold.
-/

namespace FigureForm

/-- A kind of widget. -/
inductive WidgetKind
  | axes
  | pushButton
  | toggleButton
  | checkbox
  | radioButton
  | edit
  | text
  | slider
  | listBox
  | popupMenu
  | frame
  | toolBar
  deriving DecidableEq, Repr

namespace WidgetKind

/-- Every kind. -/
def all : List WidgetKind :=
  [axes, pushButton, toggleButton, checkbox, radioButton, edit, text, slider, listBox, popupMenu,
    frame, toolBar]

/-- What a kind is called in reports. -/
def name : WidgetKind → String
  | axes => "axes"
  | pushButton => "push-button"
  | toggleButton => "toggle-button"
  | checkbox => "checkbox"
  | radioButton => "radio-button"
  | edit => "edit"
  | text => "text"
  | slider => "slider"
  | listBox => "list-box"
  | popupMenu => "popup-menu"
  | frame => "frame"
  | toolBar => "toolbar"

/-- What a kind is called in an outline of a form. -/
def label : WidgetKind → String
  | axes => "Axes"
  | pushButton => "PushButton"
  | toggleButton => "ToggleButton"
  | checkbox => "Checkbox"
  | radioButton => "RadioButton"
  | edit => "Edit"
  | text => "Text"
  | slider => "Slider"
  | listBox => "ListBox"
  | popupMenu => "PopupMenu"
  | frame => "Frame"
  | toolBar => "ToolBar"

/-- The kind with a label. -/
def ofLabel? (label : String) : Option WidgetKind :=
  all.find? fun kind => kind.label == label

end WidgetKind

end FigureForm
