/-
# Tool bars and their icons

The document of a form names each action of the tool bar three times: in the tool bar, which places
it, in an element behind the tool bar, which describes it, and in the name of the image file that
this element shows as its icon.  Here the three are the same list in the same order, and the files
that a sink is asked to store are the ones named for the actions whose icons have pixels.
-/

import FigureForm.Proofs.FormMarkup
import FigureForm.Proofs.IconStorage

namespace FigureForm

open Markup (Tree elements property? trees)

/-- The type and the text of the icon in the element of an action. -/
def Markup.Tree.icon? (action : Tree) : Option (String × String) :=
  (property? "icon" action.inside).map fun value => (value.name, value.content)

/-- Whether a tree is the element of the tool bar. -/
def Markup.Tree.isToolBar (tree : Tree) : Bool :=
  tree.isElement "widget" && tree.attribute? "name" == some "mainToolBar"

/-- The tool bars among the parts of a window. -/
def Markup.toolBars (parts : List Tree) : List Tree :=
  parts.filter Tree.isToolBar

/-- The parts of a window behind its first tool bar. -/
def Markup.behindToolBar (parts : List Tree) : List Tree :=
  (parts.dropWhile fun part => !part.isToolBar).tail

namespace Form

/-- What the parts of a window say about the tool bar of a form. -/
structure ShowsToolBar (form : Form) (parts : List Tree) : Prop where
  toolBars : (Markup.toolBars parts).length = form.toolbar.toList.length
  places : (Markup.toolBars parts).flatMap (fun toolBar =>
      (elements "addaction" toolBar.inside).map (Tree.attribute? "name")) =
    form.actions.map fun action => some action.name
  describes : (elements "action" (Markup.behindToolBar parts)).map (Tree.attribute? "name") =
    form.actions.map fun action => some action.name
  icons : (elements "action" (Markup.behindToolBar parts)).map Tree.icon? =
    form.actions.map fun action => some ("iconset", action.iconFileName)

variable (form : Form)

/-- What stands inside the window in front of the tool bar. -/
def frontMarkup : List Markup :=
  [Markup.rectangleProperty "geometry" form.geometry, Markup.fontProperty "font" form.font,
    Markup.textProperty "string" "windowTitle" form.title] ++
    form.backgroundMarkup ++ [form.centralMarkup] ++ form.menuBarMarkup

theorem inside_windowMarkup :
    form.windowMarkup.tree.inside = trees form.frontMarkup ++ trees form.toolMarkup :=
  Markup.trees_append form.frontMarkup form.toolMarkup

theorem isToolBar_of_mem_frontMarkup {part : Tree} (member : part ∈ trees form.frontMarkup) :
    part.isToolBar = false := by
  have otherName : (some "centralWidget" == some "mainToolBar") = false := by decide
  rw [Markup.trees_eq_map] at member
  obtain ⟨markup, among, rfl⟩ := List.mem_map.mp member
  simp only [frontMarkup, List.mem_append, List.mem_cons, List.not_mem_nil, or_false] at among
  rcases among with (((rfl | rfl | rfl) | background) | rfl) | menu
  · rfl
  · rfl
  · rfl
  · rw [backgroundMarkup] at background
    split at background
    · rw [List.mem_singleton.mp background]
      rfl
    · cases background
  · exact otherName
  · rw [menuBarMarkup] at menu
    split at menu
    · rw [List.mem_singleton.mp menu]
      decide
    · cases menu

theorem isToolBar_toolWidget (actions : List Action) :
    (toolWidget actions).tree.isToolBar = true := by
  have ownName : (some "mainToolBar" == some "mainToolBar") = true := by decide
  exact ownName

theorem isToolBar_of_mem_actions {actions : List Action} {part : Tree}
    (member : part ∈ trees (actions.map Action.toMarkup)) : part.isToolBar = false := by
  rw [Markup.trees_eq_map, List.map_map] at member
  obtain ⟨action, -, rfl⟩ := List.mem_map.mp member
  rfl

theorem toolBars_inside :
    Markup.toolBars form.windowMarkup.tree.inside =
      form.toolbar.toList.map fun toolbar => (toolWidget toolbar.actions).tree := by
  have front : (trees form.frontMarkup).filter Tree.isToolBar = [] := by
    rw [List.filter_eq_nil_iff]
    intro part member
    rw [isToolBar_of_mem_frontMarkup form member]
    exact Bool.false_ne_true
  rw [Markup.toolBars, inside_windowMarkup, List.filter_append, front, toolMarkup]
  cases form.toolbar with
  | none => rfl
  | some toolbar =>
    have described : (trees (toolbar.actions.map Action.toMarkup)).filter Tree.isToolBar = [] := by
      rw [List.filter_eq_nil_iff]
      intro part member
      rw [isToolBar_of_mem_actions member]
      exact Bool.false_ne_true
    show List.filter Tree.isToolBar ((toolWidget toolbar.actions).tree :: _) = _
    rw [List.filter_cons_of_pos (isToolBar_toolWidget toolbar.actions), described]
    rfl

theorem behindToolBar_inside :
    Markup.behindToolBar form.windowMarkup.tree.inside =
      trees (form.actions.map Action.toMarkup) := by
  have front : ∀ part ∈ trees form.frontMarkup, (!part.isToolBar) = true := by
    intro part member
    rw [isToolBar_of_mem_frontMarkup form member]
    rfl
  rw [Markup.behindToolBar, inside_windowMarkup, List.dropWhile_append_of_pos front, toolMarkup,
    actions]
  cases form.toolbar with
  | none => rfl
  | some toolbar =>
    show (List.dropWhile _ ((toolWidget toolbar.actions).tree :: _)).tail = _
    simp [isToolBar_toolWidget]

theorem icon?_toMarkup (action : Action) :
    action.toMarkup.tree.icon? = some ("iconset", action.iconFileName) := by
  have content : (Markup.text "iconset" [] action.iconFileName).tree.content =
      action.iconFileName := Markup.content_text _ _ _
  show some ("iconset", (Markup.text "iconset" [] action.iconFileName).tree.content) = _
  rw [content]

theorem elements_behindToolBar :
    elements "action" (Markup.behindToolBar form.windowMarkup.tree.inside) =
      form.actions.map fun action => action.toMarkup.tree := by
  have described : elements "action" (trees (form.actions.map Action.toMarkup)) =
      trees (form.actions.map Action.toMarkup) :=
    Markup.elements_eq_self fun markup member => isElement_of_mem_actions member "action"
  rw [behindToolBar_inside, described, Markup.trees_eq_map, List.map_map]
  rfl

theorem showsToolBar_inside : form.ShowsToolBar form.windowMarkup.tree.inside where
  toolBars := by
    rw [toolBars_inside, List.length_map]
  places := by
    rw [toolBars_inside, actions]
    cases form.toolbar with
    | none => rfl
    | some toolbar =>
      have entries := entries_of_toolWidget toolbar.actions
      simpa using entries
  describes := by
    rw [elements_behindToolBar, List.map_map]
    rfl
  icons := by
    rw [elements_behindToolBar, List.map_map]
    exact List.map_congr_left fun action _ => icon?_toMarkup action

theorem filter_hasIcon (actions : List Action) :
    actions.filter Action.hasIcon =
      actions.filter fun action => 0 < action.icon.width ∧ 0 < action.icon.height := by
  apply List.filter_congr
  intro action _
  rw [Action.hasIcon, Raster.hasPixels, Bool.decide_and]

/-- The names that a sink is asked for are those in the document that belong to icons with
pixels. -/
theorem names_of_requests :
    (Icons.requests form.actions).map (fun request => some ("iconset", request.1)) =
      (((elements "action" (Markup.behindToolBar form.windowMarkup.tree.inside)).zip
        form.actions).filter
          fun described => 0 < described.2.icon.width ∧ 0 < described.2.icon.height).map
            (fun described => described.1.icon?) := by
  rw [elements_behindToolBar, ← List.map_prod_right_eq_zip, List.filter_map, List.map_map,
    Icons.requests, filter_hasIcon, List.map_map]
  exact List.map_congr_left fun action _ => (icon?_toMarkup action).symm

/-- The document of a form places the actions of the tool bar inside it and describes them behind
it, each time all of them in their order, and shows for each the icon with the name of its file.
Whatever the sink and its state, storing the icons asks it, in this order, for one image file under
each name shown for an action whose icon has pixels, and for nothing else. -/
theorem render_toolBar_matches_icons :
    ∃ (body : String) (root window : Tree),
      form.render = Markup.declaration ++ "\n" ++ body ∧ Markup.read? body = some root ∧
      elements "widget" root.inside = [window] ∧
      form.actions = form.toolbar.toList.flatMap WidgetNode.actions ∧
      form.ShowsToolBar window.inside ∧
      ∀ {σ : Type} (sink : AssetSink σ) (state : σ), ∃ requests : List (String × ByteArray),
        Icons.store sink.recording form.actions (state, []) =
          (((Icons.store sink form.actions state).1, requests),
            (Icons.store sink form.actions state).2) ∧
        requests.map (fun request => some ("iconset", request.1)) =
          (((elements "action" (Markup.behindToolBar window.inside)).zip form.actions).filter
            fun described => 0 < described.2.icon.width ∧ 0 < described.2.icon.height).map
              (fun described => described.1.icon?) ∧
        List.Forall₂ Icons.IsRequestFor
          (form.actions.filter fun action => 0 < action.icon.width ∧ 0 < action.icon.height)
          requests := by
  have own : form.actions = form.toolbar.toList.flatMap WidgetNode.actions := by
    rw [actions]
    cases form.toolbar <;> simp
  refine ⟨form.toMarkup.render, form.toMarkup.tree, form.windowMarkup.tree, rfl,
    Markup.read?_render (wellFormed_toMarkup form), rfl, own, showsToolBar_inside form, ?_⟩
  intro σ sink state
  refine ⟨Icons.requests form.actions, ?_, names_of_requests form, ?_⟩
  · exact Icons.store_recording sink state form.actions []
  · rw [← filter_hasIcon]
    exact Icons.requests_isRequestFor form.actions

end Form

end FigureForm
