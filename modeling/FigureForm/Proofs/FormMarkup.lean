/-
# Forms read back from their documents

The document of a form is the declaration and one element, whose tags close in the order in which
they nest.  Read again, it is the tree of the form's markup, for every form and all texts in it.
`Form.ShownBy` says what that tree shows: the measures of the window, the widgets inside the central
widget, the menu bar, and the tool bar with its actions.
-/

import FigureForm.Proofs.WidgetMarkup

namespace FigureForm.Form

open Markup (Tree elements property? propertyText? propertyParts? trees)

/-- What a document says about a form, with the elements of the window and the central widget. -/
structure ShownBy (form : Form) (root window central : Tree) : Prop where
  isRoot : root = .element "ui" [("version", "4.0")]
    (.element "class" [] [.text "MainWindow"] :: window :: trees trailerMarkup)
  isWindow : window.name = "widget"
  windowName : window.attributes = [("class", "QMainWindow"), ("name", form.tag)]
  geometry : propertyParts? "geometry" window.inside = some form.geometry.parts
  font : propertyParts? "font" window.inside =
    some [("family", form.font.family), ("pointsize", toString form.font.pointSize.toNat)]
  title : propertyText? "windowTitle" window.inside = some form.title
  background : propertyText? "styleSheet" window.inside =
    form.background.map fun color => color.backgroundRule form.tag
  centralWidget : (elements "widget" window.inside).head? = some central
  widgets : (elements "widget" window.inside).map Tree.attributes =
    [("class", "QWidget"), ("name", "centralWidget")] ::
      ((if form.menuBar then [[("class", "QMenuBar"), ("name", "menuBar")]] else []) ++
        if form.toolbar.isSome then [[("class", "QToolBar"), ("name", "mainToolBar")]] else [])
  forest : WidgetNode.ShowsAll form.widgets central.inside
  entries : (elements "widget" window.inside).flatMap (fun widget =>
      (elements "addaction" widget.inside).map (Tree.attribute? "name")) =
    form.actions.map fun action => some action.name
  actions : (elements "action" window.inside).map (fun action =>
      (action.attribute? "name", propertyText? "icon" action.inside,
        propertyText? "text" action.inside)) =
    form.actions.map fun action =>
      (some action.name, some action.iconFileName, some action.tooltip)

/-- A form without the tool bars among its widgets. -/
def withoutToolBars (form : Form) : Form :=
  { form with widgets := WidgetNode.allWithoutToolBars form.widgets }

theorem render_withoutToolBars (form : Form) : form.withoutToolBars.render = form.render := by
  have central : form.withoutToolBars.centralMarkup = form.centralMarkup := by
    rw [centralMarkup, centralMarkup, withoutToolBars, WidgetNode.toMarkups_allWithoutToolBars]
  rw [render, toMarkup, windowMarkup, central]
  rfl

/-! ## The parts of the window -/

/-- The elements of the tool bar, if there is one. -/
def toolMarkup (form : Form) : List Markup :=
  match form.toolbar with
  | some toolbar => toolbarMarkup toolbar.actions
  | none => []

/-- The element of the tool bar itself. -/
def toolWidget (actions : List Action) : Markup :=
  Markup.widget [("class", "QToolBar"), ("name", "mainToolBar")]
    ([.nested "attribute" [("name", "toolBarArea")] [.text "enum" [] "TopToolBarArea"],
      .nested "attribute" [("name", "toolBarBreak")] [.text "bool" [] "false"]] ++
      actions.map Action.referenceMarkup)

theorem entries_of_toolWidget (actions : List Action) :
    (elements "addaction" (toolWidget actions).tree.inside).map (Tree.attribute? "name") =
      actions.map fun action => some action.name := by
  have references : elements "addaction" (trees (actions.map Action.referenceMarkup)) =
      trees (actions.map Action.referenceMarkup) := by
    apply Markup.elements_eq_self
    intro markup member
    obtain ⟨action, -, rfl⟩ := List.mem_map.1 member
    rfl
  rw [toolWidget, Markup.widget, Markup.tree, Tree.inside, Markup.trees_append,
    Markup.elements_append, references, Markup.trees_eq_map, Markup.trees_eq_map, List.map_append,
    List.map_map, List.map_map]
  rfl

/-- What stands inside the window behind its properties. -/
def partMarkup (form : Form) : List Markup :=
  form.centralMarkup :: (form.menuBarMarkup ++ form.toolMarkup)

/-- The properties of the window and its parts. -/
def insideMarkup (form : Form) : List Markup :=
  Markup.rectangleProperty "geometry" form.geometry :: Markup.fontProperty "font" form.font ::
    Markup.textProperty "string" "windowTitle" form.title ::
    (form.backgroundMarkup ++ form.partMarkup)

theorem windowMarkup_eq (form : Form) :
    form.windowMarkup =
      Markup.widget [("class", "QMainWindow"), ("name", form.tag)] form.insideMarkup := by
  simp only [windowMarkup, insideMarkup, partMarkup, List.cons_append, List.nil_append,
    List.append_assoc]
  rfl

section

variable (form : Form)

theorem elements_backgroundMarkup {name : String} (other : "property" ≠ name) :
    elements name (trees form.backgroundMarkup) = [] := by
  rw [backgroundMarkup]
  split <;> simp [other]

theorem elements_insideMarkup {name : String} (other : "property" ≠ name) :
    elements name (trees form.insideMarkup) = elements name (trees form.partMarkup) := by
  rw [insideMarkup, Markup.rectangleProperty, Markup.elements_property_cons other,
    Markup.fontProperty, Markup.elements_property_cons other,
    Markup.elements_textProperty_cons other, Markup.trees_append, Markup.elements_append,
    elements_backgroundMarkup form other, List.nil_append]

theorem property?_partMarkup (key : String) : property? key (trees form.partMarkup) = none := by
  apply Markup.property?_eq_none
  intro markup member
  rcases List.mem_cons.1 member with rfl | others
  · rfl
  rcases List.mem_append.1 others with menu | tool
  · rw [menuBarMarkup] at menu
    split at menu
    · rw [List.mem_singleton.1 menu]
      rfl
    · cases menu
  · rw [toolMarkup] at tool
    split at tool
    · rcases List.mem_cons.1 tool with rfl | entry
      · rfl
      · obtain ⟨action, -, rfl⟩ := List.mem_map.1 entry
        rfl
    · cases tool

theorem propertyText?_insideMarkup {key : String} (notGeometry : key ≠ "geometry")
    (notFont : key ≠ "font") :
    propertyText? key (trees form.insideMarkup) =
      if key = "windowTitle" then some form.title
      else propertyText? key (trees form.backgroundMarkup) := by
  have nothing : propertyText? key (trees form.partMarkup) = none := by
    rw [propertyText?, property?_partMarkup, Option.map_none]
  rw [propertyText?, insideMarkup, Markup.rectangleProperty, Markup.property?_cons,
    if_neg notGeometry, Markup.fontProperty, Markup.property?_cons, if_neg notFont]
  refine (Markup.propertyText?_cons key _ _ _ _).trans ?_
  rw [Markup.trees_append, Markup.propertyText?_append, nothing, Option.or_none]

theorem isElement_of_mem_actions {actions : List Action} {markup : Markup}
    (member : markup ∈ actions.map Action.toMarkup) (name : String) :
    markup.tree.isElement name = ("action" == name) := by
  obtain ⟨action, -, rfl⟩ := List.mem_map.1 member
  rfl

theorem elements_widget_toolMarkup :
    elements "widget" (trees form.toolMarkup) =
      form.toolbar.toList.map fun toolbar => (toolWidget toolbar.actions).tree := by
  rw [toolMarkup]
  cases form.toolbar with
  | none => rfl
  | some toolbar =>
    have nothing : elements "widget" (trees (toolbar.actions.map Action.toMarkup)) = [] :=
      Markup.elements_eq_nil fun markup member => isElement_of_mem_actions member "widget"
    have isWidget : (toolWidget toolbar.actions).tree.isElement "widget" = true := rfl
    refine (Markup.elements_cons "widget" (toolWidget toolbar.actions) _).trans ?_
    rw [if_pos isWidget, nothing]
    rfl

theorem elements_action_toolMarkup :
    elements "action" (trees form.toolMarkup) = trees (form.actions.map Action.toMarkup) := by
  rw [toolMarkup, actions]
  cases form.toolbar with
  | none => rfl
  | some toolbar =>
    have isWidget : ¬ (toolWidget toolbar.actions).tree.isElement "action" = true := by
      exact Bool.false_ne_true
    refine (Markup.elements_cons "action" (toolWidget toolbar.actions) _).trans ?_
    rw [if_neg isWidget]
    exact Markup.elements_eq_self fun markup member => isElement_of_mem_actions member "action"

theorem elements_widget_partMarkup :
    elements "widget" (trees form.partMarkup) =
      form.centralMarkup.tree :: (trees form.menuBarMarkup ++
        form.toolbar.toList.map fun toolbar => (toolWidget toolbar.actions).tree) := by
  have isWidget : form.centralMarkup.tree.isElement "widget" = true := rfl
  have menu : elements "widget" (trees form.menuBarMarkup) = trees form.menuBarMarkup := by
    rw [menuBarMarkup]
    split <;> rfl
  rw [partMarkup, Markup.elements_cons, if_pos isWidget, Markup.trees_append,
    Markup.elements_append, menu, elements_widget_toolMarkup]

theorem elements_action_partMarkup :
    elements "action" (trees form.partMarkup) = trees (form.actions.map Action.toMarkup) := by
  have isWidget : ¬ form.centralMarkup.tree.isElement "action" = true := Bool.false_ne_true
  have menu : elements "action" (trees form.menuBarMarkup) = [] := by
    rw [menuBarMarkup]
    split <;> rfl
  rw [partMarkup, Markup.elements_cons, if_neg isWidget, Markup.trees_append,
    Markup.elements_append, menu, elements_action_toolMarkup, List.nil_append]

/-! ## What the document shows -/

theorem propertyParts?_font :
    propertyParts? "font" (trees form.insideMarkup) =
      some [("family", form.font.family), ("pointsize", toString form.font.pointSize.toNat)] := by
  rw [propertyParts?, insideMarkup, Markup.rectangleProperty, Markup.property?_cons,
    if_neg (by decide), Markup.fontProperty, Markup.property?_cons, if_pos rfl, Option.map_some]
  exact congrArg some (Markup.parts_nested_texts "font"
    [("family", form.font.family), ("pointsize", toString form.font.pointSize.toNat)])

theorem propertyParts?_geometry :
    propertyParts? "geometry" (trees form.insideMarkup) = some form.geometry.parts := by
  rw [propertyParts?, insideMarkup, Markup.rectangleProperty, Markup.property?_cons, if_pos rfl,
    Option.map_some]
  exact congrArg some (Markup.parts_nested_texts "rect" form.geometry.parts)

theorem propertyText?_backgroundMarkup (key : String) :
    propertyText? key (trees form.backgroundMarkup) =
      if key = "styleSheet" then form.background.map fun color => color.backgroundRule form.tag
      else none := by
  rw [backgroundMarkup]
  split <;> simp [*]

theorem attributes_of_widgets :
    (elements "widget" (trees form.partMarkup)).map Tree.attributes =
      [("class", "QWidget"), ("name", "centralWidget")] ::
        ((if form.menuBar then [[("class", "QMenuBar"), ("name", "menuBar")]] else []) ++
          if form.toolbar.isSome then [[("class", "QToolBar"), ("name", "mainToolBar")]]
          else []) := by
  have menu : (trees form.menuBarMarkup).map Tree.attributes =
      if form.menuBar then [[("class", "QMenuBar"), ("name", "menuBar")]] else [] := by
    rw [menuBarMarkup]
    split <;> rfl
  rw [elements_widget_partMarkup, List.map_cons, List.map_append, menu]
  cases form.toolbar <;> rfl

theorem entries_of_widgets :
    (elements "widget" (trees form.partMarkup)).flatMap (fun widget =>
        (elements "addaction" widget.inside).map (Tree.attribute? "name")) =
      form.actions.map fun action => some action.name := by
  have central : elements "addaction" form.centralMarkup.tree.inside = [] :=
    WidgetNode.elements_toMarkups_eq_nil (by decide) form.widgets
  have menu : (trees form.menuBarMarkup).flatMap (fun widget =>
      (elements "addaction" widget.inside).map (Tree.attribute? "name")) = [] := by
    rw [menuBarMarkup]
    split <;> rfl
  rw [elements_widget_partMarkup, List.flatMap_cons, List.flatMap_append, menu, central, actions]
  cases form.toolbar with
  | none => rfl
  | some toolbar =>
    have entries := entries_of_toolWidget toolbar.actions
    simpa using entries

theorem texts_of_actions :
    (trees (form.actions.map Action.toMarkup)).map (fun action =>
        (action.attribute? "name", propertyText? "icon" action.inside,
          propertyText? "text" action.inside)) =
      form.actions.map fun action =>
        (some action.name, some action.iconFileName, some action.tooltip) := by
  rw [Markup.trees_eq_map, List.map_map, List.map_map]
  apply List.map_congr_left
  intro action _
  have inside : action.toMarkup.tree.inside =
      trees [Markup.textProperty "iconset" "icon" action.iconFileName,
        Markup.textProperty "string" "text" action.tooltip] := rfl
  have name : action.toMarkup.tree.attribute? "name" = some action.name := rfl
  simp [inside, name]

end

theorem shownBy_tree (form : Form) :
    form.ShownBy form.toMarkup.tree form.windowMarkup.tree form.centralMarkup.tree := by
  have inside : form.windowMarkup.tree.inside = trees form.insideMarkup := by
    rw [windowMarkup_eq]
    rfl
  have widgets : elements "widget" (trees form.insideMarkup) =
      elements "widget" (trees form.partMarkup) := elements_insideMarkup form (by decide)
  refine
    { isRoot := rfl
      isWindow := rfl
      windowName := rfl
      geometry := inside ▸ propertyParts?_geometry form
      font := inside ▸ propertyParts?_font form
      title := ?title
      background := ?background
      centralWidget := ?central
      widgets := inside ▸ widgets ▸ attributes_of_widgets form
      forest := WidgetNode.showsAll_toMarkups form.widgets
      entries := inside ▸ widgets ▸ entries_of_widgets form
      actions := ?actions }
  case title =>
    rw [inside, propertyText?_insideMarkup form (by decide) (by decide), if_pos rfl]
  case background =>
    rw [inside, propertyText?_insideMarkup form (by decide) (by decide), if_neg (by decide),
      propertyText?_backgroundMarkup, if_pos rfl]
  case central =>
    rw [inside, widgets, elements_widget_partMarkup]
    rfl
  case actions =>
    rw [inside, elements_insideMarkup form (by decide), elements_action_partMarkup]
    exact texts_of_actions form

/-! ## Reading a document -/

theorem wellFormed_toolWidget (actions : List Action) : (toolWidget actions).WellFormed := by
  have references : Markup.AllWellFormed (actions.map Action.referenceMarkup) := by
    rw [Markup.allWellFormed_iff]
    intro markup member
    obtain ⟨action, -, rfl⟩ := List.mem_map.1 member
    simp [Action.referenceMarkup]
  simp [toolWidget, Markup.widget, references]

theorem allWellFormed_toolMarkup (form : Form) : Markup.AllWellFormed form.toolMarkup := by
  rw [toolMarkup]
  split
  next toolbar _ =>
    refine ⟨wellFormed_toolWidget toolbar.actions, ?_⟩
    rw [Markup.allWellFormed_iff]
    intro markup member
    obtain ⟨action, -, rfl⟩ := List.mem_map.1 member
    simp [Action.toMarkup]
  next => trivial

theorem allWellFormed_insideMarkup (form : Form) : Markup.AllWellFormed form.insideMarkup := by
  have background : Markup.AllWellFormed form.backgroundMarkup := by
    rw [backgroundMarkup]
    split <;> simp
  have central : form.centralMarkup.WellFormed := by
    simp [centralMarkup, Markup.widget, WidgetNode.allWellFormed_toMarkups]
  have menu : Markup.AllWellFormed form.menuBarMarkup := by
    rw [menuBarMarkup]
    split <;> simp
  have font : (Markup.fontProperty "font" form.font).WellFormed := by
    simp [Markup.fontProperty, Markup.property]
  simp [insideMarkup, partMarkup, Markup.wellFormed_rectangleProperty, font, background, central,
    menu, allWellFormed_toolMarkup]

theorem wellFormed_toMarkup (form : Form) : form.toMarkup.WellFormed := by
  have window : form.windowMarkup.WellFormed := by
    simp [windowMarkup_eq, Markup.widget, allWellFormed_insideMarkup]
  simp [toMarkup, trailerMarkup, window]

/-- The document of a form is one element behind the declaration.  Its tags close those opened last
first, and reading it gives the tree of the form's markup, which shows the whole form.  Tool bars
among the widgets leave no trace in the document. -/
theorem render_reads_back (form : Form) :
    ∃ (body : String) (inner : List Markup.Event) (root window central : Tree),
      form.render = Markup.declaration ++ "\n" ++ body ∧
      Markup.events? body.toList =
        some (.start "ui" [("version", "4.0")] :: inner ++ [.stop "ui"]) ∧
      Markup.WellNested inner ∧
      Markup.read? body = some root ∧
      root = form.toMarkup.tree ∧
      form.ShownBy root window central ∧
      form.withoutToolBars.render = form.render := by
  have formed := wellFormed_toMarkup form
  obtain ⟨inner, events, nested⟩ := Markup.eventsAt_nested "ui" [("version", "4.0")]
    (.text "class" [] "MainWindow" :: form.windowMarkup :: trailerMarkup) 0
  exact ⟨form.toMarkup.render, inner, form.toMarkup.tree, form.windowMarkup.tree,
    form.centralMarkup.tree, rfl, (Markup.events?_render formed).trans (congrArg some events),
    nested, Markup.read?_render formed, rfl, shownBy_tree form, render_withoutToolBars form⟩

end FigureForm.Form
