/-
# Forms as markup

The elements that a form designer reads.  Frames hold the elements of their children; tool bars
stand beside the central widget and never among the widgets.
-/

import FigureForm.Form
import FigureForm.Markup.Element

namespace FigureForm

namespace Markup

/-- An element for a widget. -/
def widget (attributes : List (String × String)) (elements : List Markup) : Markup :=
  nested "widget" attributes elements

/-- A property with a value element. -/
def property (name : String) (value : Markup) : Markup :=
  nested "property" [("name", name)] [value]

/-- A property whose value is a text of the given type. -/
def textProperty (type name value : String) : Markup :=
  property name (text type [] value)

/-- A property that holds a rectangle. -/
def rectangleProperty (name : String) (r : Rectangle) : Markup :=
  property name (nested "rect" []
    [text "x" [] (Coordinate.text r.x), text "y" [] (Coordinate.text r.y),
      text "width" [] (Coordinate.text r.width), text "height" [] (Coordinate.text r.height)])

/-- A property that holds a font. -/
def fontProperty (name : String) (font : FontSpec) : Markup :=
  property name (nested "font" []
    [text "family" [] font.family, text "pointsize" [] (toString font.pointSize.toNat)])

end Markup

namespace WidgetNode

/-- The property for the style, unless it is missing or empty. -/
def styleMarkup (node : WidgetNode) : List Markup :=
  match node.styleSheet with
  | some rule => if rule.isEmpty then [] else [Markup.textProperty "string" "styleSheet" rule]
  | none => []

/-- The property for the text, unless there is none. -/
def captionMarkup (node : WidgetNode) : List Markup :=
  if node.text.isEmpty then [] else [Markup.textProperty "string" "text" node.text.joined]

/-- The elements for the entries of the text. -/
def itemMarkup (node : WidgetNode) : List Markup :=
  node.text.items.map fun item => .nested "item" [] [Markup.textProperty "string" "text" item]

/-- The way a slider lies. -/
def orientation (node : WidgetNode) : String :=
  if node.geometry.height < node.geometry.width then "Qt::Horizontal" else "Qt::Vertical"

/-- The class of a kind of widget; a tool bar has none among the widgets. -/
def className? : WidgetKind → Option String
  | .axes => some "QFrame"
  | .frame => some "QGroupBox"
  | .pushButton | .toggleButton => some "QPushButton"
  | .text => some "QLabel"
  | .popupMenu => some "QComboBox"
  | .listBox => some "QListWidget"
  | .edit => some "QLineEdit"
  | .slider => some "QScrollBar"
  | .checkbox => some "QCheckBox"
  | .radioButton => some "QRadioButton"
  | .toolBar => none

/-- The attributes of a widget's element. -/
def markupAttributes (className : String) (node : WidgetNode) : List (String × String) :=
  [("class", className), ("name", node.tag)] ++
    if node.kind = .axes then [("native", "true")] else []

/-- The properties of a widget between its rectangle and its children. -/
def propertyMarkup (node : WidgetNode) : List Markup :=
  match node.kind with
  | .axes =>
    [Markup.textProperty "enum" "frameShape" "QFrame::StyledPanel",
      Markup.textProperty "enum" "frameShadow" "QFrame::Sunken"] ++ node.styleMarkup
  | .frame => Markup.textProperty "string" "title" node.text.joined :: node.styleMarkup
  | .pushButton => node.captionMarkup ++ node.styleMarkup
  | .toggleButton =>
    node.captionMarkup ++ Markup.textProperty "bool" "checkable" "true" :: node.styleMarkup
  | .text =>
    node.captionMarkup ++ node.styleMarkup ++
      [Markup.textProperty "set" "alignment" "Qt::AlignCenter",
        Markup.textProperty "bool" "wordWrap" "true"]
  | .popupMenu | .listBox => node.itemMarkup ++ node.styleMarkup
  | .edit => node.captionMarkup ++ node.styleMarkup
  | .slider => Markup.textProperty "enum" "orientation" node.orientation :: node.styleMarkup
  | .checkbox | .radioButton =>
    Markup.textProperty "string" "text" node.text.joined :: node.styleMarkup
  | .toolBar => []

mutual

/-- The element of a widget with the elements of a frame's children inside it.  A tool bar has
none. -/
def toMarkup? : WidgetNode → Option Markup
  | ⟨kind, tag, text, geometry, styleSheet, children, actions⟩ =>
    let node : WidgetNode := ⟨kind, tag, text, geometry, styleSheet, children, actions⟩
    match className? kind with
    | none => none
    | some className =>
      let inner := if kind = .frame then toMarkups children else []
      some (Markup.widget (node.markupAttributes className)
        (Markup.rectangleProperty "geometry" geometry :: (node.propertyMarkup ++ inner)))

/-- The elements of widgets in order. -/
def toMarkups : List WidgetNode → List Markup
  | [] => []
  | node :: rest => (toMarkup? node).toList ++ toMarkups rest

end

/-- The text that each widget adds when the widgets are written one after another: a line break
comes in front of every element but the first. -/
def renderEach (started : Bool) : List WidgetNode → List String
  | [] => []
  | node :: rest =>
    match node.toMarkup? with
    | none => "" :: renderEach started rest
    | some element =>
      ((if started then "\n" else "") ++ element.render) :: renderEach true rest

end WidgetNode

namespace Action

/-- The element that places an action in a tool bar. -/
def referenceMarkup (action : Action) : Markup :=
  .empty "addaction" [("name", action.name)]

/-- The element that describes an action. -/
def toMarkup (action : Action) : Markup :=
  .nested "action" [("name", action.name)]
    [Markup.textProperty "iconset" "icon" action.iconFileName,
      Markup.textProperty "string" "text" action.tooltip]

end Action

namespace Form

/-- The element of the tool bar and the elements of its actions. -/
def toolbarMarkup (actions : List Action) : List Markup :=
  Markup.widget [("class", "QToolBar"), ("name", "mainToolBar")]
    ([.nested "attribute" [("name", "toolBarArea")] [.text "enum" [] "TopToolBarArea"],
      .nested "attribute" [("name", "toolBarBreak")] [.text "bool" [] "false"]] ++
      actions.map Action.referenceMarkup) ::
    actions.map Action.toMarkup

/-- The element that holds the widgets. -/
def centralMarkup (form : Form) : Markup :=
  Markup.widget [("class", "QWidget"), ("name", "centralWidget")]
    (WidgetNode.toMarkups form.widgets)

/-- The property for the color of the window, if it has one. -/
def backgroundMarkup (form : Form) : List Markup :=
  match form.background with
  | some color => [Markup.textProperty "string" "styleSheet" (color.backgroundRule form.tag)]
  | none => []

/-- The element of the menu bar, if there is one. -/
def menuBarMarkup (form : Form) : List Markup :=
  if form.menuBar then [.empty "widget" [("class", "QMenuBar"), ("name", "menuBar")]] else []

/-- The element of the window. -/
def windowMarkup (form : Form) : Markup :=
  Markup.widget [("class", "QMainWindow"), ("name", form.tag)]
    ([Markup.rectangleProperty "geometry" form.geometry, Markup.fontProperty "font" form.font,
      Markup.textProperty "string" "windowTitle" form.title] ++
      form.backgroundMarkup ++ [form.centralMarkup] ++ form.menuBarMarkup ++
      (match form.toolbar with
        | some toolbar => toolbarMarkup toolbar.actions
        | none => []))

/-- What follows the window in every form: the layout's measures and the class of plot widgets. -/
def trailerMarkup : List Markup :=
  [.empty "layoutdefault" [("spacing", "6"), ("margin", "11")],
    .nested "customwidgets" []
      [.nested "customwidget" []
        [.text "class" [] "QwtPlot", .text "extends" [] "QWidget",
          .text "header" [("location", "global")] "qwt_plot.h", .text "container" [] "1"]],
    .text "pixmapfunction" [] "", .text "resources" [] "", .text "connections" [] ""]

/-- The root element of a form. -/
def toMarkup (form : Form) : Markup :=
  .nested "ui" [("version", "4.0")]
    (.text "class" [] "MainWindow" :: form.windowMarkup :: trailerMarkup)

/-- The text of a form's document. -/
def render (form : Form) : String :=
  Markup.document form.toMarkup

end Form

end FigureForm
