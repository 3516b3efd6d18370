/-
# Entries of menus

What becomes of the `String` of a popup menu on its way into the markup.  One text is taken apart at
its vertical bars, so that the entries with bars between them are the text again, and a list stays as
it is, bars inside its entries included.  The element of the menu shows exactly these entries to a
reader, in their order and with their characters unescaped, at whatever depth it stands.
-/

import FigureForm.Proofs.Components
import FigureForm.Proofs.Segments
import FigureForm.Proofs.WidgetMarkup

namespace FigureForm

open Markup (elements propertyText?)

namespace Pieces

variable {separator : Char}

theorem join_eq_intercalate (pieces : List (List Char)) :
    join separator pieces = [separator].intercalate pieces := by
  fun_induction join separator pieces with
  | case1 => rfl
  | case2 piece => rw [List.intercalate_singleton]
  | case3 piece next pieces ih =>
    rw [List.intercalate_cons_cons, ih, List.append_assoc, List.singleton_append]

/-- A text has one more piece than separators. -/
theorem length_split (text : List Char) :
    (split separator text).length = text.count separator + 1 := by
  induction text with
  | nil => rfl
  | cons c rest ih =>
    by_cases same : c = separator
    · rw [split, if_pos same, List.length_cons, ih, same, List.count_cons_self]
    · obtain ⟨piece, pieces, cut, whole⟩ := split_cons_of_ne same rest
      rw [cut, List.length_cons] at ih
      rw [whole, List.length_cons, ih, List.count_cons_of_ne same]

end Pieces

/-- Whether a menu with a value in its `String` offers these entries: the pieces of a text between
its vertical bars, the texts of a list, and none for any other value. -/
def FieldValue.OffersEntries (value : FieldValue) (entries : List String) : Prop :=
  match value with
  | .text whole =>
    (∀ entry ∈ entries, '|' ∉ entry.toList) ∧ String.intercalate "|" entries = whole ∧
      entries.length = whole.toList.count '|' + 1
  | .textList texts => entries = texts
  | _ => entries = []

/-- The entries of a text are its pieces, and the text can be put together from them. -/
theorem Content.offersEntries_separated (text : String) :
    (FieldValue.text text).OffersEntries (Content.single text).separated.items := by
  have entries : (Content.single text).separated.items =
      (Pieces.split '|' text.toList).map String.ofList := rfl
  rw [entries]
  refine ⟨?_, ?_, ?_⟩
  · intro entry among
    obtain ⟨piece, inText, rfl⟩ := List.mem_map.mp among
    rw [String.toList_ofList]
    exact Pieces.not_mem_of_mem_split inText
  · have same : String.toList ∘ String.ofList = id := funext fun _ => String.toList_ofList
    rw [← String.toList_inj, String.toList_intercalate, List.map_map, same, List.map_id]
    exact (Pieces.join_eq_intercalate _).symm.trans (Pieces.join_split '|' text.toList)
  · rw [List.length_map, Pieces.length_split]

/-- The element of a popup menu is a combo box that reads back at every level, with an item for each
entry of the menu. -/
theorem WidgetNode.exists_comboBox {node : WidgetNode} (isMenu : node.kind = .popupMenu) :
    ∃ element box, node.toMarkup? = some element ∧
      (∀ level, Markup.read? (String.ofList (element.renderAt level)) = some box) ∧
      box.attribute? "class" = some "QComboBox" ∧ box.attribute? "name" = some node.tag ∧
      (elements "item" box.inside).map (fun item => propertyText? "text" item.inside) =
        node.text.items.map some := by
  have known : className? node.kind = some "QComboBox" := by
    rw [isMenu]
    rfl
  have choices : node.choices = node.text.items := by rw [choices, isMenu]
  have written : node.toMarkup? =
      some (Markup.widget (node.markupAttributes "QComboBox") node.insideMarkup) := by
    rw [toMarkup?_eq, known, Option.map_some]
  have shown := shownBy_widget node known
  exact ⟨_, _, written, Markup.read?_renderAt (wellFormed_toMarkup? node written),
    shown.className.symm.trans known, shown.name, shown.choices.trans (by rw [choices])⟩

namespace Figure

/-- A menu offers the entries of its `String`, whatever value stands there. -/
theorem offersEntries_leafText (properties : Element) :
    (properties.field "String").OffersEntries (leafText .popupMenu properties).items := by
  rw [leafText]
  cases properties.field "String" with
  | text text => exact Content.offersEntries_separated text
  | textList texts => exact Eq.refl texts
  | _ => exact Eq.refl []

/-- The entries of a popup menu get from the figure into the markup.  A control with the style of a
menu and a position becomes a combo box, whose element reads back from every level of a document and
then has exactly the entries of the control's `String` as the texts of its items: of a text the
pieces between its vertical bars, of a list its texts as they are, and otherwise none.  Entries that
were taken apart are not taken apart again. -/
theorem widgetOf_popupMenu_offers_entries (metrics : FontMetrics) (areaHeight : Coordinate)
    (place : Place) {component properties : Element} {position : Position}
    (found : properties? component = some properties)
    (isControl : component.textOrEmpty "type" = "uicontrol")
    (isMenu : properties.textOrEmpty "Style" = "popupmenu")
    (positioned : positionOf? properties = some position) :
    (∃ node element box entries,
      (widgetOf metrics areaHeight place component).value = some node ∧
        node.toMarkup? = some element ∧
        (∀ level, Markup.read? (String.ofList (element.renderAt level)) = some box) ∧
        box.attribute? "class" = some "QComboBox" ∧ box.attribute? "name" = some node.tag ∧
        (elements "item" box.inside).map (fun item => propertyText? "text" item.inside) =
          entries.map some ∧
        (properties.field "String").OffersEntries entries) ∧
      ∀ content : Content, content.separated.separated = content.separated := by
  refine ⟨?_, Content.separated_separated⟩
  have recognized : kindOf component properties = .ok .popupMenu := by
    rw [kindOf, isControl, isMenu]
    rfl
  let node : WidgetNode := { nodeOf .popupMenu properties with
    geometry := position.resolve (scaleOf metrics properties) areaHeight
    text := leafText .popupMenu properties }
  have built : (widgetOf metrics areaHeight place component).value = some node :=
    congrArg Noted.value
      (widgetOf_of_leaf found recognized (by decide) (by decide) positioned)
  have ofMenu : node.kind = .popupMenu := rfl
  obtain ⟨element, box, written, reads, isBox, named, items⟩ :=
    WidgetNode.exists_comboBox ofMenu
  exact ⟨node, element, box, _, built, written, reads, isBox, named, items,
    offersEntries_leafText properties⟩

/-- The properties of a menu with empty entries in the middle and at the end. -/
def barredProperties : Element :=
  .ofFields [("Position", .vector [10, 10, 80, 20]), ("String", .text "red||<blue>|"),
    ("Style", .text "popupmenu"), ("Tag", .text "colors")]

/-- A menu with empty entries in the middle and at the end. -/
def barredMenu : Element :=
  .ofFields [("properties", .record [barredProperties]), ("type", .text "uicontrol")]

/-- Empty entries are entries too. -/
theorem widgetOf_popupMenu_offers_entries_barred :
    properties? barredMenu = some barredProperties ∧
      barredMenu.textOrEmpty "type" = "uicontrol" ∧
      barredProperties.textOrEmpty "Style" = "popupmenu" ∧
      positionOf? barredProperties = some ⟨10, 10, 80, 20⟩ ∧
      ∃ node element box entries,
        (widgetOf ⟨6, 13⟩ 300 (.top "children") barredMenu).value = some node ∧
          node.toMarkup? = some element ∧ Markup.read? element.render = some box ∧
          (elements "item" box.inside).map (fun item => propertyText? "text" item.inside) =
            entries.map some ∧
          String.intercalate "|" entries = "red||<blue>|" ∧ entries.length = 4 := by
  have found : properties? barredMenu = some barredProperties := rfl
  have isControl : barredMenu.textOrEmpty "type" = "uicontrol" := rfl
  have isMenu : barredProperties.textOrEmpty "Style" = "popupmenu" := rfl
  have positioned : positionOf? barredProperties = some ⟨10, 10, 80, 20⟩ := rfl
  obtain ⟨node, element, box, entries, built, written, reads, -, -, items, -, whole, number⟩ :=
    (widgetOf_popupMenu_offers_entries ⟨6, 13⟩ 300 (.top "children") found isControl isMenu
      positioned).1
  exact ⟨found, isControl, isMenu, positioned, node, element, box, entries, built, written,
    reads 0, items, whole, number⟩

end Figure

end FigureForm
