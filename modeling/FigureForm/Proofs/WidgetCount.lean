/-
# How many widgets are counted and how many are written

The report on a conversion counts the widgets of the form, and the document of the form holds an
element for each of them that is no tool bar.  Both are followed through the whole tree of widgets:
a widget that was built from a component has children only if it is a frame, so that nothing is lost
below the others, and the two numbers differ by the tool bars that stand inside frames.  No claim is
made on forms that were not built from a figure, where anything may stand inside anything.
-/

import FigureForm.Conversion.Converter
import FigureForm.Proofs.FormMarkup
import FigureForm.Proofs.Markup.Descendants
import FigureForm.Proofs.WidgetShape

namespace FigureForm

open Markup (Tree elements elementsWithin trees)

namespace WidgetNode

/-! ## No widget stands inside a property -/

@[simp] theorem widgets_textProperty_cons {type : String} (notWidget : type ≠ "widget")
    (name value : String) (rest : List Markup) :
    elementsWithin "widget" (trees (Markup.textProperty type name value :: rest)) =
      elementsWithin "widget" (trees rest) :=
  Markup.elementsWithin_textProperty_cons (by decide) notWidget name value rest

theorem widgets_rectangleProperty_cons (name : String) (r : Rectangle) (rest : List Markup) :
    elementsWithin "widget" (trees (Markup.rectangleProperty name r :: rest)) =
      elementsWithin "widget" (trees rest) := by
  rw [Markup.rectangleProperty, Markup.property, Markup.elementsWithin_nested_cons (by decide),
    Markup.elementsWithin_nested_cons (by decide)]
  repeat rw [Markup.elementsWithin_text_cons (by decide)]
  rw [Markup.elementsWithin_trees_nil, List.nil_append, List.nil_append]

section

variable (node : WidgetNode)

theorem widgets_captionMarkup : elementsWithin "widget" (trees node.captionMarkup) = [] := by
  rw [captionMarkup]
  split <;> simp

theorem widgets_styleMarkup : elementsWithin "widget" (trees node.styleMarkup) = [] := by
  rw [styleMarkup]
  split
  · split <;> simp
  · exact Markup.elementsWithin_trees_nil "widget"

theorem widgets_itemMarkup : elementsWithin "widget" (trees node.itemMarkup) = [] := by
  rw [itemMarkup]
  induction node.text.items with
  | nil => exact Markup.elementsWithin_trees_nil "widget"
  | cons item rest ih =>
    rw [List.map_cons, Markup.elementsWithin_nested_cons (by decide), ih,
      widgets_textProperty_cons (by decide)]
    rw [Markup.elementsWithin_trees_nil, List.nil_append]

theorem widgets_propertyMarkup : elementsWithin "widget" (trees node.propertyMarkup) = [] := by
  have caption := widgets_captionMarkup node
  have style := widgets_styleMarkup node
  have items := widgets_itemMarkup node
  rw [propertyMarkup]
  cases node.kind <;> simp [caption, style, items]

/-- The widgets written inside a widget's element are those of the widgets that it shows. -/
theorem widgets_insideMarkup :
    elementsWithin "widget" (trees node.insideMarkup) =
      elementsWithin "widget" (trees (toMarkups node.shownChildren)) := by
  rw [insideMarkup, widgets_rectangleProperty_cons, Markup.trees_append,
    Markup.elementsWithin_append, widgets_propertyMarkup, List.nil_append]

end

/-! ## Counting a tree twice -/

/-- How many elements of widgets are written for widgets, at any depth. -/
def writtenCount (nodes : List WidgetNode) : Nat :=
  (elementsWithin "widget" (trees (toMarkups nodes))).length

mutual

/-- The number of tool bars in a tree, its root included. -/
def toolBarCount : WidgetNode → Nat
  | ⟨kind, _, _, _, _, children, _⟩ =>
    (if kind = .toolBar then 1 else 0) + toolBarCountAll children

/-- The number of tool bars in a list of trees. -/
def toolBarCountAll : List WidgetNode → Nat
  | [] => 0
  | node :: rest => toolBarCount node + toolBarCountAll rest

end

theorem toolBarCount_eq (node : WidgetNode) :
    node.toolBarCount =
      (if node.kind = .toolBar then 1 else 0) + toolBarCountAll node.children := by
  cases node
  rw [toolBarCount]

theorem writtenCount_nil : writtenCount [] = 0 := by
  rw [writtenCount, toMarkups, Markup.elementsWithin_trees_nil, List.length_nil]

theorem writtenCount_cons (node : WidgetNode) (rest : List WidgetNode) :
    writtenCount (node :: rest) = writtenCount [node] + writtenCount rest := by
  unfold writtenCount
  rw [toMarkups, toMarkups, toMarkups, List.append_nil, Markup.trees_append,
    Markup.elementsWithin_append, List.length_append]

theorem writtenCount_toolBar {node : WidgetNode} (isToolBar : node.kind = .toolBar) :
    writtenCount [node] = 0 := by
  rw [writtenCount, toMarkups, toMarkup?_eq_none_iff.2 isToolBar]
  exact writtenCount_nil

/-- A widget that is no tool bar is written once, around what it shows. -/
theorem writtenCount_widget {node : WidgetNode} (notToolBar : node.kind ≠ .toolBar) :
    writtenCount [node] = 1 + writtenCount node.shownChildren := by
  obtain ⟨className, known⟩ := Option.ne_none_iff_exists'.1
    (mt className?_eq_none_iff.1 notToolBar)
  have isWidget : (Markup.widget (node.markupAttributes className) node.insideMarkup).tree.isElement
      "widget" = true := rfl
  have inside : (Markup.widget (node.markupAttributes className) node.insideMarkup).tree.inside =
      trees node.insideMarkup := rfl
  rw [writtenCount, toMarkups, toMarkup?_eq, known, Option.map_some, Option.toList_some, toMarkups,
    List.append_nil, trees, trees, Markup.elementsWithin_cons, if_pos isWidget, inside,
    widgets_insideMarkup, Markup.elementsWithin_nil, List.append_nil, List.length_append]
  rfl

/-- What is counted for each of some widgets is counted for all of them. -/
theorem countAll_eq_of_each {nodes : List WidgetNode}
    (each : ∀ node ∈ nodes, node.count = writtenCount [node] + node.toolBarCount) :
    countAll nodes = writtenCount nodes + toolBarCountAll nodes := by
  induction nodes with
  | nil => rw [countAll, writtenCount_nil, toolBarCountAll]
  | cons node rest ih =>
    have first := each node List.mem_cons_self
    have others := ih fun other member => each other (List.mem_cons_of_mem _ member)
    rw [countAll, writtenCount_cons, toolBarCountAll]
    omega

/-- In a tree that was built, whatever is counted is written or is a tool bar.  The induction is on
the tree; only frames have children to go on with. -/
theorem count_eq_of_regular {node : WidgetNode} (regular : Everywhere Regular node) :
    node.count = writtenCount [node] + node.toolBarCount := by
  induction regular with
  | @node node here below ih =>
    have inside := countAll_eq_of_each ih
    rw [count_eq, toolBarCount_eq]
    by_cases frame : node.kind = .frame
    · have notToolBar : node.kind ≠ .toolBar := by
        rw [frame]
        decide
      have shown : node.shownChildren = node.children := by
        rw [shownChildren, isFrame, frame]
        rfl
      rw [writtenCount_widget notToolBar, shown, if_neg notToolBar]
      omega
    · have childless : node.children = [] := by
        apply Classical.byContradiction
        intro some
        exact frame (here.children some)
      rw [childless, countAll, toolBarCountAll]
      by_cases toolBar : node.kind = .toolBar
      · rw [writtenCount_toolBar toolBar, if_pos toolBar]
      · have shown : node.shownChildren = [] := by
          rw [shownChildren, childless, ite_self]
        rw [writtenCount_widget toolBar, shown, writtenCount_nil, if_neg toolBar]

theorem countAll_eq_of_regular {nodes : List WidgetNode}
    (regular : ∀ node ∈ nodes, Everywhere Regular node) :
    countAll nodes = writtenCount nodes + toolBarCountAll nodes :=
  countAll_eq_of_each fun node member => count_eq_of_regular (regular node member)

mutual

theorem toolBarCount_eq_zero_iff : ∀ node : WidgetNode,
    node.toolBarCount = 0 ↔ Everywhere (fun inner => inner.kind ≠ .toolBar) node
  | ⟨kind, tag, text, geometry, styleSheet, children, actions⟩ => by
    have inside := toolBarCountAll_eq_zero_iff children
    rw [toolBarCount]
    constructor
    · intro none
      refine .node ?_ (inside.1 (by omega))
      intro (isToolBar : kind = .toolBar)
      rw [if_pos isToolBar] at none
      omega
    · intro nowhere
      rw [if_neg nowhere.atRoot, inside.2 nowhere.ofChild]

/-- There is no tool bar in trees exactly when none of their widgets is one. -/
theorem toolBarCountAll_eq_zero_iff : ∀ nodes : List WidgetNode,
    toolBarCountAll nodes = 0 ↔
      ∀ node ∈ nodes, Everywhere (fun inner => inner.kind ≠ .toolBar) node
  | [] => by simp [toolBarCountAll]
  | node :: rest => by
    rw [toolBarCountAll, Nat.add_eq_zero_iff, toolBarCount_eq_zero_iff node,
      toolBarCountAll_eq_zero_iff rest, List.forall_mem_cons]

end

end WidgetNode

namespace Figure

open WidgetNode

theorem regular_of_mem_frames {root : Root} {options : FormOptions} {frame : WidgetNode}
    (member : frame ∈ root.frames options) : Everywhere Regular frame ∧ frame.kind = .frame := by
  obtain ⟨among, isFrame⟩ := List.mem_filter.mp member
  exact ⟨regular_of_mem_nodes among, eq_of_beq isFrame⟩

theorem regular_of_mem_others {root : Root} {options : FormOptions} {node : WidgetNode}
    (member : node ∈ root.others options) : Everywhere Regular node ∧ node.kind ≠ .toolBar := by
  obtain ⟨among, loose⟩ := List.mem_filter.mp member
  exact ⟨regular_of_mem_nodes among, (isLoose_iff.mp loose).2⟩

/-- The widgets of a form are counted once for each element of a widget and once for each tool bar
among them. -/
theorem widgetCount_of_formOf {options : FormOptions} {dump : Dump} {answer : Noted Form}
    (built : formOf options dump = .ok answer) :
    answer.value.widgetCount =
      writtenCount answer.value.widgets + toolBarCountAll answer.value.widgets := by
  obtain ⟨root, _, _, rfl⟩ := formOf_eq_ok_iff.mp built
  apply countAll_eq_of_regular
  intro node member
  exact regular_of_mem_enclosed (fun _ => regular_of_mem_frames) (fun _ => regular_of_mem_others)
    member

end Figure

namespace Form

/-- Whether a text reads as a document in which a central widget stands inside a window. -/
def HasCentralWidget (text : String) (central : Tree) : Prop :=
  ∃ body root window,
    text = Markup.declaration ++ "\n" ++ body ∧ Markup.read? body = some root ∧
      elements "widget" root.inside = [window] ∧
      (elements "widget" window.inside).head? = some central ∧
      central.attributes = [("class", "QWidget"), ("name", "centralWidget")]

/-- Read back, the document of a form has a central widget around the elements of the form's
widgets. -/
theorem hasCentralWidget_render (form : Form) :
    HasCentralWidget form.render form.centralMarkup.tree := by
  have shown := shownBy_tree form
  refine ⟨form.toMarkup.render, form.toMarkup.tree, form.windowMarkup.tree, rfl,
    Markup.read?_render (wellFormed_toMarkup form), ?_, shown.centralWidget, rfl⟩
  rw [shown.isRoot]
  rfl

end Form

namespace Converter

open WidgetNode

variable {converter : Converter} {dump : Dump} {answer : Noted Form}

/-- The measures and options with which a converter builds forms. -/
def options (converter : Converter) : Figure.FormOptions :=
  ⟨converter.settings.font, converter.fontMetrics.value, converter.settings.opening⟩

theorem formOf_eq_ok_iff :
    (converter.formOf dump).value = .ok answer ↔ Figure.formOf converter.options dump = .ok answer :=
  mapError_eq_ok_iff

/-- A report counts the widgets of the form that was built. -/
theorem widgets_of_convert {σ : Type} {storage : Storage σ} {output : String} {state : σ}
    {report : ConversionReport} (built : (converter.formOf dump).value = .ok answer)
    (reported : (converter.convert storage dump output state).2.value = .ok report) :
    report.widgets = answer.value.widgetCount := by
  rw [convert, built] at reported
  dsimp only at reported
  split at reported
  · cases reported
  · cases reported
    rfl

/-- The widgets that a report counts are those written inside the central widget, at any depth, and
the tool bars inside frames, for which nothing is written.  The two numbers are the same exactly
when there are no such tool bars. -/
theorem convert_counts_written_and_toolBars (built : (converter.formOf dump).value = .ok answer) :
    (∀ (σ : Type) (storage : Storage σ) (output : String) (state : σ) (report : ConversionReport),
      (converter.convert storage dump output state).2.value = .ok report →
        report.widgets = answer.value.widgetCount) ∧
    ∃ central, Form.HasCentralWidget answer.value.render central ∧
      answer.value.widgetCount =
        (elementsWithin "widget" central.inside).length +
          toolBarCountAll answer.value.widgets ∧
      (answer.value.widgetCount = (elementsWithin "widget" central.inside).length ↔
        ∀ node ∈ answer.value.widgets, Everywhere (fun inner => inner.kind ≠ .toolBar) node) := by
  have counted := Figure.widgetCount_of_formOf (formOf_eq_ok_iff.mp built)
  refine ⟨fun σ storage output state report => widgets_of_convert built,
    answer.value.centralMarkup.tree, Form.hasCentralWidget_render answer.value, counted, ?_⟩
  show _ = writtenCount answer.value.widgets ↔ _
  rw [← toolBarCountAll_eq_zero_iff, counted]
  omega

/-- The standard settings with fixed measures of the font. -/
def usual : Converter :=
  ⟨.standard, .fixed ⟨6, 13⟩⟩

/-- Of a panel with a tool bar, an inner panel and a menu that the panel takes in, all four are
counted and all but the tool bar are written. -/
theorem convert_counts_titledComponents :
    ∃ answer central,
      (usual.formOf (Figure.windowDump "pixels" Figure.titledComponents)).value = .ok answer ∧
      Form.HasCentralWidget answer.value.render central ∧ answer.value.widgetCount = 4 ∧
      (elementsWithin "widget" central.inside).length = 3 := by
  have counts : (usual.formOf
      (Figure.windowDump "pixels" Figure.titledComponents)).value.toOption.map
        (fun answer => (answer.value.widgetCount, toolBarCountAll answer.value.widgets)) =
      some (4, 1) := by
    decide +kernel
  obtain ⟨answer, built, counts⟩ := exists_ok_of_map_toOption counts
  obtain ⟨counted, toolBars⟩ := Prod.mk.inj counts
  obtain ⟨-, central, isCentral, sum, -⟩ := convert_counts_written_and_toolBars built
  exact ⟨answer, central, built, isCentral, counted, by omega⟩

/-- A window with a panel around a tool bar. -/
def nestedToolBar : Dump :=
  Figure.windowDump "pixels"
    [Figure.describedComponent "uipanel"
      [("Position", .vector [10, 10, 200, 100]), ("Tag", .text "panel")]
      [Figure.placedComponent "uitoolbar" "tools" []]]

/-- What comes of converting that window. -/
def nestedToolBarOutcome : Except ConversionFault ConversionReport :=
  (usual.convert .filesAndAssets nestedToolBar "form.ui"
    (FileTree.ofWorkingDirectory [], [])).2.value

/-- A tool bar inside a panel is counted in the report, but of the two widgets only the panel is
written. -/
theorem convert_counts_nestedToolBar :
    ∃ answer central report, (usual.formOf nestedToolBar).value = .ok answer ∧
      Form.HasCentralWidget answer.value.render central ∧
      nestedToolBarOutcome = .ok report ∧ report.widgets = 2 ∧
      (elementsWithin "widget" central.inside).length = 1 := by
  have counts : (usual.formOf nestedToolBar).value.toOption.map
      (fun answer => (answer.value.widgetCount, toolBarCountAll answer.value.widgets)) =
      some (2, 1) := by
    decide +kernel
  have succeeds : nestedToolBarOutcome.isOk = true := by
    decide +kernel
  obtain ⟨answer, built, counts⟩ := exists_ok_of_map_toOption counts
  obtain ⟨counted, toolBars⟩ := Prod.mk.inj counts
  obtain ⟨report, reported⟩ := exists_ok_of_isOk succeeds
  have written := Figure.widgetCount_of_formOf (formOf_eq_ok_iff.mp built)
  refine ⟨answer, _, report, built, Form.hasCentralWidget_render answer.value, reported, ?_, ?_⟩
  · rw [widgets_of_convert built reported, counted]
  · show writtenCount answer.value.widgets = 1
    omega

end Converter

end FigureForm
