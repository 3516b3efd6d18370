/-
# Characters in the documents of forms

The document of a form shows texts of the form: its tag, title and font, the rules of style, and the
tags, texts and tool bar entries of its widgets.  Everything else in the document is fixed or is a
number.  So the forbidden characters of the document are those of the texts shown, in their order,
whatever the form is (`forbidden_render`).
-/

import FigureForm.Proofs.FormMarkup
import FigureForm.Proofs.Markup.Characters
import FigureForm.Proofs.WidgetShape

namespace FigureForm

open Markup (forbidden forbiddenIn allWrittenTexts)

/-! ## Texts made of texts -/

/-- A line of entries has the characters of the entries. -/
theorem Content.forbidden_joined (content : Content) :
    forbidden content.joined.toList = forbiddenIn content.items := by
  cases content with
  | none => rfl
  | single text => exact (List.append_nil _).symm
  | entries texts =>
    rw [joined, items]
    induction texts with
    | nil => rfl
    | cons text rest ih =>
      cases rest with
      | nil => simp
      | cons next others =>
        simp only [String.intercalate_cons_cons, String.toList_append, Markup.forbidden_append, ih]
        simp (disch := decide) [Markup.forbidden_cons]

theorem Content.forbiddenIn_items_of_isEmpty {content : Content} (empty : content.isEmpty = true) :
    forbiddenIn content.items = [] := by
  cases content with
  | none => rfl
  | single text =>
    rw [String.isEmpty_iff.mp empty]
    rfl
  | entries texts =>
    rw [items, List.isEmpty_iff.mp empty]
    rfl

/-- A rule of style has the characters of the tag that it is for. -/
theorem Color.forbidden_backgroundRule (tag : String) (color : Color) :
    forbidden (color.backgroundRule tag).toList = forbidden tag.toList := by
  simp (disch := decide) only [backgroundRule, String.toList_append, Markup.forbidden_append,
    Markup.forbidden_toString_nat, Markup.forbidden_toList, List.nil_append, List.append_nil]

/-- The name of an icon's file has the characters of the action's name. -/
theorem Action.forbidden_iconFileName (action : Action) :
    forbidden action.iconFileName.toList = forbidden action.name.toList := by
  simp (disch := decide) only [iconFileName, String.toList_append, Markup.forbidden_append,
    Markup.forbidden_toList, List.append_nil]

namespace WidgetNode

/-! ## Widgets -/

/-- The texts of a widget itself that its element shows. -/
def ownTexts (node : WidgetNode) : List String :=
  node.tag :: ((if node.kind ∈ WidgetKind.textless then [] else node.text.items) ++
    node.styleSheet.toList)

mutual

/-- The texts of a widget and of the widgets that stand inside its element. -/
def shownTexts : WidgetNode → List String
  | ⟨kind, tag, text, geometry, styleSheet, children, actions⟩ =>
    if kind = .toolBar then []
    else ownTexts ⟨kind, tag, text, geometry, styleSheet, children, actions⟩ ++
      if kind = .frame then shownTextsAll children else []

/-- The texts that the elements of widgets show. -/
def shownTextsAll : List WidgetNode → List String
  | [] => []
  | node :: rest => shownTexts node ++ shownTextsAll rest

end

theorem shownTexts_eq (node : WidgetNode) :
    node.shownTexts =
      if node.kind = .toolBar then [] else node.ownTexts ++ shownTextsAll node.shownChildren := by
  obtain ⟨kind, tag, text, geometry, styleSheet, children, actions⟩ := node
  rw [shownTexts, shownChildren, isFrame]
  by_cases frame : kind = .frame
  · simp [frame]
  · simp [frame, shownTextsAll]

theorem mem_forbiddenIn_shownTextsAll {nodes : List WidgetNode} {c : Char} :
    c ∈ forbiddenIn (shownTextsAll nodes) ↔ ∃ node ∈ nodes, c ∈ forbiddenIn node.shownTexts := by
  induction nodes with
  | nil => simp [shownTextsAll]
  | cons node rest ih => simp [shownTextsAll, ih]

/-- A widget shows its own texts, and a frame those of its children. -/
theorem mem_forbiddenIn_shownTexts {node : WidgetNode} {c : Char} :
    c ∈ forbiddenIn node.shownTexts ↔
      node.kind ≠ .toolBar ∧ (c ∈ forbiddenIn node.ownTexts ∨
        node.kind = .frame ∧ ∃ child ∈ node.children, c ∈ forbiddenIn child.shownTexts) := by
  rw [shownTexts_eq]
  by_cases isToolBar : node.kind = .toolBar
  · simp [isToolBar]
  · have inside : c ∈ forbiddenIn (shownTextsAll node.shownChildren) ↔
        node.kind = .frame ∧ ∃ child ∈ node.children, c ∈ forbiddenIn child.shownTexts := by
      by_cases isFrame : node.kind = .frame
      · simp [shownChildren, WidgetNode.isFrame, isFrame, mem_forbiddenIn_shownTextsAll]
      · simp [shownChildren, WidgetNode.isFrame, isFrame, shownTextsAll]
    rw [if_neg isToolBar, Markup.forbiddenIn_append, List.mem_append, inside,
      and_iff_right isToolBar]

section

variable (node : WidgetNode)

theorem forbiddenIn_captionMarkup :
    forbiddenIn (allWrittenTexts node.captionMarkup) = forbiddenIn node.text.items := by
  rw [captionMarkup]
  split
  next empty => rw [Content.forbiddenIn_items_of_isEmpty empty]; rfl
  next =>
    simp (disch := decide) [allWrittenTexts, Content.forbidden_joined, Markup.forbidden_cons]

theorem forbiddenIn_styleMarkup :
    forbiddenIn (allWrittenTexts node.styleMarkup) = forbiddenIn node.styleSheet.toList := by
  rw [styleMarkup]
  split
  next rule isRule =>
    rw [isRule]
    split
    next empty => rw [String.isEmpty_iff.mp empty]; rfl
    next => simp (disch := decide) [allWrittenTexts, Markup.forbidden_cons]
  next noRule => rw [noRule]; rfl

theorem forbiddenIn_itemMarkup :
    forbiddenIn (allWrittenTexts node.itemMarkup) = forbiddenIn node.text.items := by
  rw [itemMarkup]
  induction node.text.items with
  | nil => rfl
  | cons item rest ih =>
    rw [List.map_cons, allWrittenTexts, Markup.forbiddenIn_append, ih]
    simp (disch := decide) [Markup.writtenTexts, allWrittenTexts, Markup.forbidden_cons]

theorem forbidden_orientation : forbidden node.orientation.toList = [] := by
  rw [orientation]
  split <;> decide

/-- Properties show the text and the style of a widget. -/
theorem forbiddenIn_propertyMarkup (shown : node.kind ≠ .toolBar) :
    forbiddenIn (allWrittenTexts node.propertyMarkup) =
      forbiddenIn ((if node.kind ∈ WidgetKind.textless then [] else node.text.items) ++
        node.styleSheet.toList) := by
  rw [propertyMarkup]
  cases kind : node.kind <;>
    simp (disch := decide) [WidgetKind.textless, allWrittenTexts, Markup.allWrittenTexts_append,
      forbiddenIn_captionMarkup, forbiddenIn_styleMarkup, forbiddenIn_itemMarkup,
      forbidden_orientation, Content.forbidden_joined, Markup.forbidden_cons]
  exact absurd kind shown

end

theorem forbidden_className {kind : WidgetKind} {className : String}
    (known : className? kind = some className) : forbidden className.toList = [] := by
  cases kind <;> cases known <;> decide

/-- The attributes show the tag. -/
theorem forbiddenIn_markupAttributes (node : WidgetNode) {className : String}
    (known : className? node.kind = some className) :
    forbiddenIn ((node.markupAttributes className).map Prod.snd) = forbidden node.tag.toList := by
  rw [markupAttributes]
  split <;> simp (disch := decide) [forbidden_className known, Markup.forbidden_cons]

/-- The element of a widget shows the texts of the widget, if the elements inside show those of the
widgets inside. -/
theorem forbiddenIn_widget (node : WidgetNode) {className : String}
    (known : className? node.kind = some className)
    (inside : forbiddenIn (allWrittenTexts (toMarkups node.shownChildren)) =
      forbiddenIn (shownTextsAll node.shownChildren)) :
    forbiddenIn (Markup.widget (node.markupAttributes className) node.insideMarkup).writtenTexts =
      forbiddenIn node.shownTexts := by
  have shown : node.kind ≠ .toolBar := fun same => by
    rw [className?_eq_none_iff.mpr same] at known
    cases known
  rw [shownTexts_eq, if_neg shown, ownTexts, Markup.widget, Markup.writtenTexts, insideMarkup,
    allWrittenTexts, Markup.allWrittenTexts_append]
  simp only [Markup.forbiddenIn_append, Markup.forbiddenIn_cons, List.cons_append, inside,
    forbiddenIn_markupAttributes node known, Markup.forbiddenIn_rectangleProperty,
    forbiddenIn_propertyMarkup node shown, List.nil_append]

mutual

theorem forbiddenIn_toMarkup? : ∀ (node : WidgetNode) {markup : Markup},
    node.toMarkup? = some markup → forbiddenIn markup.writtenTexts = forbiddenIn node.shownTexts
  | ⟨kind, tag, text, geometry, styleSheet, children, actions⟩, markup, written => by
    rw [toMarkup?_eq, Option.map_eq_some_iff] at written
    obtain ⟨className, known, rfl⟩ := written
    apply forbiddenIn_widget _ known
    rw [shownChildren]
    split
    · exact forbiddenIn_toMarkups children
    · rfl

/-- The elements of widgets show their texts in order. -/
theorem forbiddenIn_toMarkups : ∀ nodes : List WidgetNode,
    forbiddenIn (allWrittenTexts (toMarkups nodes)) = forbiddenIn (shownTextsAll nodes)
  | [] => rfl
  | node :: rest => by
    rw [toMarkups, shownTextsAll, Markup.allWrittenTexts_append, Markup.forbiddenIn_append,
      Markup.forbiddenIn_append, forbiddenIn_toMarkups rest]
    cases written : node.toMarkup? with
    | none =>
      rw [shownTexts_eq, if_pos (toMarkup?_eq_none_iff.mp written)]
      rfl
    | some markup =>
      have here := forbiddenIn_toMarkup? node written
      simp [allWrittenTexts, here]

end

end WidgetNode

namespace Form

/-! ## Windows -/

/-- The texts of an entry of the tool bar that its description shows. -/
def actionTexts (action : Action) : List String :=
  [action.name, action.iconFileName, action.tooltip]

/-- The texts of a form that its document shows, in the order of the document. -/
def shownTexts (form : Form) : List String :=
  [form.tag, form.font.family, form.title] ++
    (form.background.map fun color => color.backgroundRule form.tag).toList ++
    WidgetNode.shownTextsAll form.widgets ++ form.actions.map Action.name ++
    form.actions.flatMap actionTexts

variable (form : Form)

theorem forbiddenIn_fontProperty :
    forbiddenIn (Markup.fontProperty "font" form.font).writtenTexts =
      forbidden form.font.family.toList := by
  have size : forbidden (toString form.font.pointSize.toNat).toList = [] :=
    Markup.forbidden_toString_nat _
  simp only [Markup.fontProperty, Markup.property, Markup.writtenTexts, allWrittenTexts,
    List.map_cons, List.map_nil, List.nil_append, List.cons_append, Markup.forbiddenIn_cons,
    Markup.forbiddenIn_nil, size, List.append_nil]
  rfl

theorem forbiddenIn_backgroundMarkup :
    forbiddenIn (allWrittenTexts form.backgroundMarkup) =
      forbiddenIn (form.background.map fun color => color.backgroundRule form.tag).toList := by
  rw [backgroundMarkup]
  cases form.background with
  | none => rfl
  | some color => simp (disch := decide) [allWrittenTexts, Markup.forbidden_cons]

theorem forbiddenIn_centralMarkup :
    forbiddenIn form.centralMarkup.writtenTexts =
      forbiddenIn (WidgetNode.shownTextsAll form.widgets) := by
  rw [centralMarkup, Markup.widget, Markup.writtenTexts, Markup.forbiddenIn_append,
    WidgetNode.forbiddenIn_toMarkups]
  rfl

theorem forbiddenIn_menuBarMarkup : forbiddenIn (allWrittenTexts form.menuBarMarkup) = [] := by
  rw [menuBarMarkup]
  split <;> rfl

theorem forbiddenIn_references (actions : List Action) :
    forbiddenIn (allWrittenTexts (actions.map Action.referenceMarkup)) =
      forbiddenIn (actions.map Action.name) := by
  induction actions with
  | nil => rfl
  | cons action rest ih =>
    simp [allWrittenTexts, Action.referenceMarkup, Markup.writtenTexts, ih]

theorem forbiddenIn_descriptions (actions : List Action) :
    forbiddenIn (allWrittenTexts (actions.map Action.toMarkup)) =
      forbiddenIn (actions.flatMap actionTexts) := by
  induction actions with
  | nil => rfl
  | cons action rest ih =>
    simp (disch := decide) [allWrittenTexts, Action.toMarkup, Markup.writtenTexts, actionTexts,
      Markup.forbidden_cons, ih]

theorem forbiddenIn_toolWidget (actions : List Action) :
    forbiddenIn (toolWidget actions).writtenTexts = forbiddenIn (actions.map Action.name) := by
  rw [toolWidget, Markup.widget, Markup.writtenTexts, Markup.allWrittenTexts_append,
    Markup.forbiddenIn_append, Markup.forbiddenIn_append, forbiddenIn_references]
  rfl

theorem forbiddenIn_toolMarkup :
    forbiddenIn (allWrittenTexts form.toolMarkup) =
      forbiddenIn (form.actions.map Action.name) ++
        forbiddenIn (form.actions.flatMap actionTexts) := by
  rw [toolMarkup, actions]
  cases form.toolbar with
  | none => rfl
  | some toolbar =>
    show forbiddenIn (allWrittenTexts
      (toolWidget toolbar.actions :: toolbar.actions.map Action.toMarkup)) = _
    rw [allWrittenTexts, Markup.forbiddenIn_append, forbiddenIn_toolWidget,
      forbiddenIn_descriptions]

/-- The window shows all the texts. -/
theorem forbiddenIn_windowMarkup :
    forbiddenIn form.windowMarkup.writtenTexts = forbiddenIn form.shownTexts := by
  have title : forbiddenIn ["windowTitle", form.title] = forbidden form.title.toList := by
    simp (disch := decide) [Markup.forbidden_cons]
  have tag : forbiddenIn ["QMainWindow", form.tag] = forbidden form.tag.toList := by
    simp (disch := decide) [Markup.forbidden_cons]
  rw [windowMarkup_eq, Markup.widget, Markup.writtenTexts, insideMarkup, partMarkup, shownTexts]
  simp only [allWrittenTexts, Markup.allWrittenTexts_append, List.map_cons, List.map_nil,
    Markup.forbiddenIn_append, Markup.writtenTexts_textProperty, tag, title,
    Markup.forbiddenIn_rectangleProperty, forbiddenIn_fontProperty, forbiddenIn_backgroundMarkup,
    forbiddenIn_centralMarkup, forbiddenIn_menuBarMarkup, forbiddenIn_toolMarkup,
    Markup.forbiddenIn_cons, Markup.forbiddenIn_nil, List.nil_append, List.append_nil,
    List.append_assoc]

/-- The forbidden characters of the document of a form are those of the texts that it shows. -/
theorem forbidden_render : forbidden form.render.toList = forbiddenIn form.shownTexts := by
  have front : forbiddenIn ["4.0", "MainWindow"] = [] := by decide
  have trailer : forbiddenIn (allWrittenTexts trailerMarkup) = [] := by decide
  rw [render, Markup.forbidden_document (wellFormed_toMarkup form), toMarkup]
  show forbiddenIn (["4.0", "MainWindow"] ++
    (form.windowMarkup.writtenTexts ++ allWrittenTexts trailerMarkup)) = _
  rw [Markup.forbiddenIn_append, Markup.forbiddenIn_append, front, trailer,
    forbiddenIn_windowMarkup, List.nil_append, List.append_nil]

end Form

end FigureForm
