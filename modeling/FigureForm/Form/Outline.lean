/-
# Outlines of forms

An outline shows a form as a tree of named fields.  It leaves out empty texts, missing styles, and
empty lists of children and actions, and of an icon it shows the size alone.  `Outline.render`
writes a tree with two spaces of indentation for each level.
-/

import FigureForm.Form

namespace FigureForm

/-- A tree of named fields. -/
inductive Outline
  | null
  | truth (value : Bool)
  | whole (value : Int)
  | text (value : String)
  | list (items : List Outline)
  | fields (members : List (String × Outline))

namespace Outline

/-- A digit with a value below sixteen. -/
def hexDigit (value : Nat) : Char :=
  if value < 10 then Char.ofNat ('0'.toNat + value) else Char.ofNat ('a'.toNat + value - 10)

/-- How a character is written inside quotes. -/
def escapeCharacter (c : Char) : List Char :=
  if c = '"' then ['\\', '"']
  else if c = '\\' then ['\\', '\\']
  else if c = '\x08' then ['\\', 'b']
  else if c = '\x0c' then ['\\', 'f']
  else if c = '\n' then ['\\', 'n']
  else if c = '\r' then ['\\', 'r']
  else if c = '\t' then ['\\', 't']
  else if c.toNat < 0x20 then
    ['\\', 'u', '0', '0', hexDigit (c.toNat / 16), hexDigit (c.toNat % 16)]
  else [c]

/-- A text in quotes. -/
def quote (text : String) : List Char :=
  '"' :: text.toList.flatMap escapeCharacter ++ ['"']

/-- A line break and the indentation of a level. -/
def lineBreak (level : Nat) : List Char :=
  '\n' :: List.replicate (2 * level) ' '

mutual

/-- A tree whose first line stands at a level. -/
def renderAt (level : Nat) : Outline → List Char
  | null => "null".toList
  | truth value => (if value then "true" else "false").toList
  | whole value => (toString value).toList
  | text value => quote value
  | list [] => ['[', ']']
  | list (item :: rest) =>
    '[' :: lineBreak (level + 1) ++ renderAt (level + 1) item ++ renderItems (level + 1) rest ++
      lineBreak level ++ [']']
  | fields [] => ['\x7b', '\x7d']
  | fields ((name, value) :: rest) =>
    '\x7b' :: lineBreak (level + 1) ++ quote name ++ ':' :: ' ' :: renderAt (level + 1) value ++
      renderMembers (level + 1) rest ++ lineBreak level ++ ['\x7d']

/-- The items after the first. -/
def renderItems (level : Nat) : List Outline → List Char
  | [] => []
  | item :: rest => ',' :: lineBreak level ++ renderAt level item ++ renderItems level rest

/-- The members after the first. -/
def renderMembers (level : Nat) : List (String × Outline) → List Char
  | [] => []
  | (name, value) :: rest =>
    ',' :: lineBreak level ++ quote name ++ ':' :: ' ' :: renderAt level value ++
      renderMembers level rest

end

/-- The text of a tree. -/
def render (outline : Outline) : String :=
  String.ofList (outline.renderAt 0)

end Outline

/-- The outline of a color. -/
def Color.outline (color : Color) : Outline :=
  .fields [("r", .whole color.red.toNat), ("g", .whole color.green.toNat),
    ("b", .whole color.blue.toNat)]

/-- The outline of a rectangle. -/
def Rectangle.outline (r : Rectangle) : Outline :=
  .fields [("x", .whole r.x.toInt), ("y", .whole r.y.toInt), ("width", .whole r.width.toInt),
    ("height", .whole r.height.toInt)]

/-- The outline of a font. -/
def FontSpec.outline (font : FontSpec) : Outline :=
  .fields [("family", .text font.family), ("point_size", .whole font.pointSize.toNat)]

/-- The outline of a widget's text. -/
def Content.outline : Content → Outline
  | .none => .null
  | .single text => .text text
  | .entries texts => .list (texts.map .text)

/-- The outline of an action, which shows the size of its icon. -/
def Action.outline (action : Action) : Outline :=
  .fields [("name", .text action.name), ("tooltip", .text action.tooltip),
    ("icon", .list [.whole action.icon.width, .whole action.icon.height])]

namespace WidgetNode

mutual

/-- The outline of a widget. -/
def outline : WidgetNode → Outline
  | ⟨kind, tag, text, geometry, styleSheet, children, actions⟩ =>
    .fields <|
      [("kind", .text kind.label), ("tag", .text tag)] ++
      (if text.isEmpty then [] else [("text", text.outline)]) ++
      [("geometry", geometry.outline)] ++
      (match styleSheet with
        | some rule => [("style_sheet", .text rule)]
        | none => []) ++
      (match children with
        | [] => []
        | child :: rest => [("children", .list (outline child :: outlines rest))]) ++
      (if actions.isEmpty then [] else [("actions", .list (actions.map Action.outline))])

/-- The outlines of widgets in order. -/
def outlines : List WidgetNode → List Outline
  | [] => []
  | node :: rest => outline node :: outlines rest

end

end WidgetNode

/-- The outline of a form. -/
def Form.outline (form : Form) : Outline :=
  .fields
    [("title", .text form.title), ("tag", .text form.tag),
      ("background", (form.background.map Color.outline).getD .null),
      ("menu_bar", .truth form.menuBar), ("font", form.font.outline),
      ("geometry", form.geometry.outline), ("widgets", .list (WidgetNode.outlines form.widgets)),
      ("toolbar", (form.toolbar.map WidgetNode.outline).getD .null)]

end FigureForm
