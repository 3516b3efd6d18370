/-
# Widgets in the markup

What the elements of widgets say to a reader.  `WidgetNode.ShownBy` lists what the element of one
widget holds, for every kind of widget alike, and `ShowsAll` relates a list of widgets to a list of
elements: tool bars are passed over, and inside the element of a frame stand the elements of its
children.  `showsAll_toMarkups` proves this for all widgets by induction over the widget trees.
-/

import FigureForm.Proofs.Markup.Selection

namespace FigureForm

open Markup (Tree elements property? propertyText? propertyParts? trees)

/-- The texts that a rectangle is written with. -/
def Rectangle.parts (r : Rectangle) : List (String × String) :=
  [("x", Coordinate.text r.x), ("y", Coordinate.text r.y), ("width", Coordinate.text r.width),
    ("height", Coordinate.text r.height)]

namespace WidgetNode

/-- The text that a widget shows beside or on itself.  Check boxes and radio buttons have one even
when it is empty. -/
def caption? (node : WidgetNode) : Option String :=
  match node.kind with
  | .checkbox | .radioButton => some node.text.joined
  | .pushButton | .toggleButton | .text | .edit =>
    if node.text.isEmpty then none else some node.text.joined
  | _ => none

/-- The entries that a widget offers. -/
def choices (node : WidgetNode) : List String :=
  match node.kind with
  | .popupMenu | .listBox => node.text.items
  | _ => []

/-- The widgets that stand inside a widget's element. -/
def shownChildren (node : WidgetNode) : List WidgetNode :=
  if node.isFrame then node.children else []

/-- The text of a property; nothing when a widget does not have it. -/
def propertyOf? (node : WidgetNode) : String → Option String
  | "title" => if node.kind = .frame then some node.text.joined else none
  | "text" => node.caption?
  | "styleSheet" => node.styleSheet.filter fun rule => !rule.isEmpty
  | "orientation" => if node.kind = .slider then some node.orientation else none
  | "checkable" => if node.kind = .toggleButton then some "true" else none
  | "alignment" => if node.kind = .text then some "Qt::AlignCenter" else none
  | "wordWrap" => if node.kind = .text then some "true" else none
  | "frameShape" => if node.kind = .axes then some "QFrame::StyledPanel" else none
  | "frameShadow" => if node.kind = .axes then some "QFrame::Sunken" else none
  | _ => none

/-- What an element says about a widget, without the widgets inside it. -/
structure ShownBy (node : WidgetNode) (tree : Tree) : Prop where
  isWidget : tree.name = "widget"
  className : className? node.kind = tree.attribute? "class"
  name : tree.attribute? "name" = some node.tag
  native : tree.attribute? "native" = if node.kind = .axes then some "true" else none
  geometry : propertyParts? "geometry" tree.inside = some node.geometry.parts
  texts : ∀ key, key ≠ "geometry" → propertyText? key tree.inside = node.propertyOf? key
  choices : (elements "item" tree.inside).map (fun item => propertyText? "text" item.inside) =
    node.choices.map some

mutual

/-- An element shows a widget, and the elements inside it show the children of a frame. -/
inductive Shows : WidgetNode → Tree → Prop
  | intro {node : WidgetNode} {tree : Tree} (own : node.ShownBy tree)
      (inside : ShowsAll node.shownChildren (elements "widget" tree.inside)) : Shows node tree

/-- Elements show widgets in order, and nothing stands for tool bars. -/
inductive ShowsAll : List WidgetNode → List Tree → Prop
  | nil : ShowsAll [] []
  | toolBar {node : WidgetNode} {rest : List WidgetNode} {trees : List Tree}
      (unshown : node.kind = .toolBar) (later : ShowsAll rest trees) :
      ShowsAll (node :: rest) trees
  | widget {node : WidgetNode} {rest : List WidgetNode} {tree : Tree} {trees : List Tree}
      (shown : node.kind ≠ .toolBar) (here : Shows node tree) (later : ShowsAll rest trees) :
      ShowsAll (node :: rest) (tree :: trees)

end

/-! ## The properties of one widget -/

section

variable (node : WidgetNode) (key : String)

@[simp] theorem propertyText?_captionMarkup :
    propertyText? key (trees node.captionMarkup) =
      if key = "text" then if node.text.isEmpty then none else some node.text.joined else none := by
  rw [captionMarkup]
  split <;> simp [*]

@[simp] theorem propertyText?_styleMarkup :
    propertyText? key (trees node.styleMarkup) =
      if key = "styleSheet" then node.styleSheet.filter fun rule => !rule.isEmpty else none := by
  rw [styleMarkup]
  split
  next rule styled =>
    split <;> simp [*, Option.filter]
  next styled => simp [styled]

@[simp] theorem propertyText?_itemMarkup :
    propertyText? key (trees node.itemMarkup) = none := by
  rw [propertyText?, Markup.property?_eq_none, Option.map_none]
  intro markup member
  obtain ⟨item, -, rfl⟩ := List.mem_map.1 member
  rfl

variable {key} (other : "property" ≠ key)

include other

@[simp] theorem elements_captionMarkup : elements key (trees node.captionMarkup) = [] := by
  rw [captionMarkup]
  split <;> simp [other]

@[simp] theorem elements_styleMarkup : elements key (trees node.styleMarkup) = [] := by
  rw [styleMarkup]
  split
  · split <;> simp [other]
  · rfl

end

/-- Apart from its rectangle, a widget has only properties that are texts and items. -/
theorem elements_widget_propertyMarkup (node : WidgetNode) :
    elements "widget" (trees node.propertyMarkup) = [] := by
  have items : elements "widget" (trees node.itemMarkup) = [] := by
    apply Markup.elements_eq_nil
    intro markup member
    obtain ⟨item, -, rfl⟩ := List.mem_map.1 member
    rfl
  rw [propertyMarkup]
  cases node.kind <;> simp [items]

theorem elements_item_propertyMarkup (node : WidgetNode) :
    (elements "item" (trees node.propertyMarkup)).map
      (fun item => propertyText? "text" item.inside) = node.choices.map some := by
  have items : (elements "item" (trees node.itemMarkup)).map
      (fun item => propertyText? "text" item.inside) = node.text.items.map some := by
    rw [Markup.elements_eq_self, Markup.trees_eq_map, itemMarkup, List.map_map, List.map_map]
    · apply List.map_congr_left
      intro item _
      exact Markup.propertyText?_cons "text" "string" "text" item []
    · intro markup member
      obtain ⟨item, -, rfl⟩ := List.mem_map.1 member
      rfl
  rw [propertyMarkup, choices]
  cases node.kind <;> simp [items]

/-! ## One widget with what stands inside it -/

/-- What stands inside the element of a widget. -/
def insideMarkup (node : WidgetNode) : List Markup :=
  Markup.rectangleProperty "geometry" node.geometry ::
    (node.propertyMarkup ++ toMarkups node.shownChildren)

theorem toMarkup?_eq (node : WidgetNode) :
    node.toMarkup? = (className? node.kind).map fun className =>
      Markup.widget (node.markupAttributes className) node.insideMarkup := by
  obtain ⟨kind, tag, text, geometry, styleSheet, children, actions⟩ := node
  rw [toMarkup?, insideMarkup, shownChildren, isFrame]
  by_cases frame : kind = .frame
  · simp only [frame, beq_self_eq_true, if_true]
    rfl
  · simp only [frame, beq_eq_false_iff_ne.2 frame, if_false, Bool.false_eq_true, toMarkups]
    cases className? kind <;> rfl

theorem className?_eq_none_iff {kind : WidgetKind} : className? kind = none ↔ kind = .toolBar := by
  cases kind <;> simp [className?]

theorem toMarkup?_eq_none_iff {node : WidgetNode} :
    node.toMarkup? = none ↔ node.kind = .toolBar := by
  rw [toMarkup?_eq, Option.map_eq_none_iff, className?_eq_none_iff]

theorem isElement_of_mem_toMarkups {nodes : List WidgetNode} {markup : Markup}
    (member : markup ∈ toMarkups nodes) (name : String) :
    markup.tree.isElement name = ("widget" == name) := by
  induction nodes with
  | nil => cases member
  | cons node rest inductive_hypothesis =>
    rw [toMarkups, List.mem_append, Option.mem_toList, toMarkup?_eq,
      Option.map_eq_some_iff] at member
    rcases member with ⟨className, -, rfl⟩ | later
    · rfl
    · exact inductive_hypothesis later

theorem elements_toMarkups_eq_nil {name : String} (other : "widget" ≠ name)
    (nodes : List WidgetNode) : elements name (trees (toMarkups nodes)) = [] := by
  apply Markup.elements_eq_nil
  intro markup member
  rw [isElement_of_mem_toMarkups member]
  exact beq_eq_false_iff_ne.2 other

theorem elements_widget_toMarkups (nodes : List WidgetNode) :
    elements "widget" (trees (toMarkups nodes)) = trees (toMarkups nodes) := by
  apply Markup.elements_eq_self
  intro markup member
  exact isElement_of_mem_toMarkups member "widget"

/-- Every property but the rectangle, for every kind of widget. -/
theorem propertyText?_propertyMarkup (node : WidgetNode) (shown : node.kind ≠ .toolBar)
    (key : String) : propertyText? key (trees node.propertyMarkup) = node.propertyOf? key := by
  -- The first split is by the key, so that each kind has one question to answer.
  unfold propertyOf?
  split
  all_goals
    rw [propertyMarkup]
    cases kind : node.kind <;> simp_all [caption?]

section

variable (node : WidgetNode)

theorem elements_insideMarkup {name : String} (other : "property" ≠ name) :
    elements name (trees node.insideMarkup) =
      elements name (trees node.propertyMarkup) ++
        elements name (trees (toMarkups node.shownChildren)) := by
  rw [insideMarkup, Markup.rectangleProperty, Markup.elements_property_cons other,
    Markup.trees_append, Markup.elements_append]

theorem property?_insideMarkup (key : String) :
    property? key (trees node.insideMarkup) =
      if key = "geometry" then
        some (Markup.nested "rect" [] (node.geometry.parts.map fun part =>
          .text part.1 [] part.2)).tree
      else property? key (trees node.propertyMarkup) := by
  have nothing : property? key (trees (toMarkups node.shownChildren)) = none :=
    Markup.property?_eq_none fun markup member => isElement_of_mem_toMarkups member "property"
  rw [insideMarkup, Markup.rectangleProperty, Markup.property?_cons, Markup.trees_append,
    Markup.property?_append, nothing, Option.or_none]
  rfl

/-- The element of a widget shows it, whatever widgets stand inside. -/
theorem shownBy_widget {className : String} (known : className? node.kind = some className) :
    node.ShownBy (Markup.widget (node.markupAttributes className) node.insideMarkup).tree where
  isWidget := rfl
  className := known.trans rfl
  name := rfl
  native := by
    rw [Markup.widget, Markup.tree, Tree.attribute?, Tree.attributes, markupAttributes]
    split <;> rfl
  geometry := by
    rw [Markup.widget, Markup.tree, Tree.inside, propertyParts?, property?_insideMarkup,
      if_pos rfl, Option.map_some, Markup.parts_nested_texts]
  texts := by
    intro key other
    have shown : node.kind ≠ .toolBar := by
      intro tool
      rw [tool] at known
      cases known
    rw [Markup.widget, Markup.tree, Tree.inside, propertyText?, property?_insideMarkup,
      if_neg other]
    exact propertyText?_propertyMarkup node shown key
  choices := by
    rw [Markup.widget, Markup.tree, Tree.inside, elements_insideMarkup node (by decide),
      elements_toMarkups_eq_nil (by decide), List.append_nil]
    exact elements_item_propertyMarkup node

end

/-! ## Trees of widgets -/

mutual

/-- The element of a widget shows it with everything inside it. -/
theorem shows_toMarkup? : ∀ (node : WidgetNode) {markup : Markup},
    node.toMarkup? = some markup → Shows node markup.tree
  | ⟨kind, tag, text, geometry, styleSheet, children, actions⟩, markup, written => by
    rw [toMarkup?_eq, Option.map_eq_some_iff] at written
    obtain ⟨className, known, rfl⟩ := written
    refine .intro (shownBy_widget _ known) ?_
    rw [Markup.widget, Markup.tree, Tree.inside, elements_insideMarkup _ (by decide),
      elements_widget_propertyMarkup, elements_widget_toMarkups, List.nil_append, shownChildren]
    split
    · exact showsAll_toMarkups children
    · exact .nil

/-- The elements of widgets show them in order. -/
theorem showsAll_toMarkups : ∀ nodes : List WidgetNode, ShowsAll nodes (trees (toMarkups nodes))
  | [] => .nil
  | node :: rest => by
    have later := showsAll_toMarkups rest
    rw [toMarkups]
    cases written : node.toMarkup? with
    | none => exact .toolBar (toMarkup?_eq_none_iff.1 written) later
    | some markup =>
      have shown : node.kind ≠ .toolBar := by
        intro tool
        rw [toMarkup?_eq_none_iff.2 tool] at written
        cases written
      exact .widget shown (shows_toMarkup? node written) later

end

/-! ## Well-formed elements -/

theorem allWellFormed_captionMarkup (node : WidgetNode) :
    Markup.AllWellFormed node.captionMarkup := by
  rw [captionMarkup]
  split <;> simp

theorem allWellFormed_styleMarkup (node : WidgetNode) : Markup.AllWellFormed node.styleMarkup := by
  rw [styleMarkup]
  split
  · split <;> simp
  · trivial

theorem allWellFormed_itemMarkup (node : WidgetNode) : Markup.AllWellFormed node.itemMarkup := by
  rw [Markup.allWellFormed_iff]
  intro markup member
  obtain ⟨item, -, rfl⟩ := List.mem_map.1 member
  simp

theorem allWellFormed_propertyMarkup (node : WidgetNode) :
    Markup.AllWellFormed node.propertyMarkup := by
  have caption := allWellFormed_captionMarkup node
  have style := allWellFormed_styleMarkup node
  have item := allWellFormed_itemMarkup node
  rw [propertyMarkup]
  cases node.kind <;> simp [caption, style, item]

mutual

theorem wellFormed_toMarkup? : ∀ (node : WidgetNode) {markup : Markup},
    node.toMarkup? = some markup → markup.WellFormed
  | ⟨kind, tag, text, geometry, styleSheet, children, actions⟩, markup, written => by
    rw [toMarkup?_eq, Option.map_eq_some_iff] at written
    obtain ⟨className, -, rfl⟩ := written
    refine ⟨by simp, ?_, Markup.wellFormed_rectangleProperty _ _, ?_⟩
    · rw [markupAttributes]
      split <;> simp
    · rw [Markup.allWellFormed_append, shownChildren]
      refine ⟨allWellFormed_propertyMarkup _, ?_⟩
      split
      · exact allWellFormed_toMarkups children
      · trivial

theorem allWellFormed_toMarkups : ∀ nodes : List WidgetNode,
    Markup.AllWellFormed (toMarkups nodes)
  | [] => trivial
  | node :: rest => by
    rw [toMarkups, Markup.allWellFormed_append]
    refine ⟨?_, allWellFormed_toMarkups rest⟩
    rw [Markup.allWellFormed_iff]
    intro markup member
    exact wellFormed_toMarkup? node (Option.mem_toList.1 member)

end

/-! ## Tool bars among the widgets -/

mutual

/-- A widget without the tool bars at any depth inside it. -/
def withoutToolBars : WidgetNode → WidgetNode
  | ⟨kind, tag, text, geometry, styleSheet, children, actions⟩ =>
    ⟨kind, tag, text, geometry, styleSheet, allWithoutToolBars children, actions⟩

/-- The widgets of a list that are no tool bars, each without the tool bars inside it. -/
def allWithoutToolBars : List WidgetNode → List WidgetNode
  | [] => []
  | node :: rest =>
    if node.kind = .toolBar then allWithoutToolBars rest
    else withoutToolBars node :: allWithoutToolBars rest

end

mutual

theorem toMarkup?_withoutToolBars : ∀ node : WidgetNode,
    node.withoutToolBars.toMarkup? = node.toMarkup?
  | ⟨kind, tag, text, geometry, styleSheet, children, actions⟩ => by
    rw [withoutToolBars, toMarkup?, toMarkup?, toMarkups_allWithoutToolBars children]
    rfl

/-- Tool bars contribute nothing to the elements of widgets, at any depth. -/
theorem toMarkups_allWithoutToolBars : ∀ nodes : List WidgetNode,
    toMarkups (allWithoutToolBars nodes) = toMarkups nodes
  | [] => rfl
  | node :: rest => by
    have later := toMarkups_allWithoutToolBars rest
    rw [allWithoutToolBars, toMarkups]
    split
    next tool =>
      rw [toMarkup?_eq_none_iff.2 tool, later]
      rfl
    next => rw [toMarkups, toMarkup?_withoutToolBars node, later]

end

end WidgetNode

end FigureForm
