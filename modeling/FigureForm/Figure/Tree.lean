/-
# Widget trees from figures

A component of a figure becomes a widget, a tool bar or nothing, and everything that is skipped or
guessed on the way is remarked on at its place.  The children of a frame are placed against the
height of that frame.  The recursion follows the record alone: an element's fields, the field that
holds its children, and their elements.
-/

import FigureForm.Figure.Component
import FigureForm.Figure.Diagnostic
import FigureForm.Figure.Icon
import FigureForm.Placement.Position
import FigureForm.Widget.Node

namespace FigureForm.Figure

/-- The type of the tool bar entries that become actions. -/
def toggleToolType : String :=
  "uitoggletool"

/-- The properties of a component, whose absence differs from their being empty. -/
def properties? (component : Element) : Option Element :=
  (component.record? "properties").map Record.first

/-- The unit that properties name.  A word that is no unit is remarked on, and pixels stand in for
it. -/
def unitOf (place : Place) (properties : Element) : Noted LengthUnit := do
  let word := properties.textOrEmpty "Units"
  match LengthUnit.ofWord? word with
  | some unit => return unit
  | none =>
    if word ≠ "" then Noted.remark (.unknownUnits place word)
    return .pixels

/-- The position that properties give. -/
def positionOf? (properties : Element) : Option Position :=
  (properties.field "Position").toVector?.bind Position.ofNumbers?

/-- The rectangle that properties give inside an area of some height.  A missing position is
remarked on. -/
def rectangleOf (metrics : FontMetrics) (areaHeight : Coordinate) (place : Place) (tag : String)
    (properties : Element) : Noted (Option Rectangle) := do
  match positionOf? properties with
  | none =>
    Noted.remark (.missingPosition place tag)
    return none
  | some position =>
    let unit ← unitOf place properties
    return some (position.resolve (unit.scale metrics) areaHeight)

/-- The color in a field. -/
def colorOf? (properties : Element) (name : String) : Option Color :=
  (properties.field name).toVector?.bind Color.ofIntensities

/-- The text in a field: one text, a list of entries or nothing. -/
def contentOf : FieldValue → Content
  | .text text => .single text
  | .textList texts => .entries texts
  | _ => .none

/-- The title of a frame; an empty title is none. -/
def titleOf (properties : Element) : Content :=
  let title := properties.textOrEmpty "Title"
  if title = "" then .none else .single title

/-- The icon of an action.  A field that holds no icon is remarked on, and an icon without pixels
stands in for it. -/
def iconOf (place : Place) (action : String) (properties : Element) : Noted Raster :=
  match Icon.ofField (properties.field "CData") with
  | .ok icon => return icon
  | .error fault => do
    Noted.remark (.malformedIcon place action fault.message)
    return Raster.empty

/-- The action of a tool bar entry; entries of other types are passed over. -/
def actionOf (place : Place) (tool : Element) : Noted (Option Action) := do
  if tool.text? "type" = some toggleToolType then
    match properties? tool with
    | none =>
      Noted.remark (.missingProperties place)
      return none
    | some properties =>
      let name := properties.textOrEmpty "Tag"
      let icon ← iconOf place name properties
      return some ⟨name, properties.textOrEmpty "TooltipString", icon⟩
  else return none

/-- The actions of tool bar entries, counting from an index. -/
def actionsOf (toolbar : Place) (index : Nat) : Record → Noted (List Action)
  | [] => return []
  | tool :: rest => do
    let action ← actionOf (toolbar.child index) tool
    let actions ← actionsOf toolbar (index + 1) rest
    return action.toList ++ actions

mutual

/-- The widget of a component in an area of some height. -/
def widgetOf (metrics : FontMetrics) (areaHeight : Coordinate) (place : Place) :
    Element → Noted (Option WidgetNode)
  | .ofFields fields => do
    let component := Element.ofFields fields
    match properties? component with
    | none =>
      Noted.remark (.missingProperties place)
      return none
    | some properties =>
      let style := properties.textOrEmpty "Style"
      match WidgetKind.ofTypeAndStyle (component.textOrEmpty "type") style with
      | .error unrecognized =>
        Noted.remark (.unrecognized place unrecognized.type unrecognized.style)
        return none
      | .ok kind =>
        let tag := properties.textOrEmpty "Tag"
        let styleSheet := (colorOf? properties "BackgroundColor").map (Color.backgroundRule tag)
        let node := { WidgetNode.plain kind tag with styleSheet }
        if kind = .toolBar then
          let actions ← actionsOf place 0 ((component.record? "children").getD [])
          return some { node with actions }
        else
          match ← rectangleOf metrics areaHeight place tag properties with
          | none => return none
          | some geometry =>
            match kind with
            | .frame =>
              let children ← widgetsOfFields metrics geometry.height place fields
              return some { node with geometry, text := titleOf properties, children }
            | .axes | .slider => return some { node with geometry }
            | .popupMenu =>
              let text := (contentOf (properties.field "String")).separated
              return some { node with geometry, text }
            | _ => return some { node with geometry, text := contentOf (properties.field "String") }

/-- The widgets of the components in the field for children, if it is among the fields. -/
def widgetsOfFields (metrics : FontMetrics) (areaHeight : Coordinate) (parent : Place) :
    List (String × FieldValue) → Noted (List WidgetNode)
  | [] => return []
  | (name, value) :: rest =>
    if name = "children" then widgetsOfValue metrics areaHeight parent value
    else widgetsOfFields metrics areaHeight parent rest

/-- The widgets of the components in a record; other values hold none. -/
def widgetsOfValue (metrics : FontMetrics) (areaHeight : Coordinate) (parent : Place) :
    FieldValue → Noted (List WidgetNode)
  | .record components => widgetsOf metrics areaHeight parent 0 components
  | _ => return []

/-- The widgets of components in one area, counting from an index. -/
def widgetsOf (metrics : FontMetrics) (areaHeight : Coordinate) (parent : Place) (index : Nat) :
    List Element → Noted (List WidgetNode)
  | [] => return []
  | component :: rest => do
    let node ← widgetOf metrics areaHeight (parent.child index) component
    let nodes ← widgetsOf metrics areaHeight parent (index + 1) rest
    return node.toList ++ nodes

end

end FigureForm.Figure
