/-
# The shape of built widget trees

A widget tree by itself may hold anything anywhere; one that was built from a figure may not.
`Regular` collects what then holds at every widget: only frames have children, only tool bars have
actions, some kinds never occur, and the text, the place and the style follow from the kind and the
tag.  The builder makes regular trees because each reading of a component gives a regular widget over
regular ones.  Enclosure keeps them regular because it changes nothing but the corners of widgets and
the children of frames.  On the top level frames come first, and neither behind them nor among what
they take in is there a frame or a tool bar.
-/

import FigureForm.Proofs.Window

namespace FigureForm

namespace WidgetKind

/-- The kinds that no component stands for. -/
def unbuilt : List WidgetKind :=
  [toggleButton, radioButton, listBox]

/-- The kinds that never show a text. -/
def textless : List WidgetKind :=
  [axes, slider, toolBar]

theorem ofStyle?_not_mem_unbuilt {style : String} {kind : WidgetKind}
    (recognized : ofStyle? style = some kind) : kind ∉ unbuilt := by
  unfold ofStyle? at recognized
  repeat' split at recognized
  all_goals cases recognized
  all_goals decide

theorem ofTypeAndStyle_not_mem_unbuilt {type style : String} {kind : WidgetKind}
    (recognized : ofTypeAndStyle type style = .ok kind) : kind ∉ unbuilt := by
  obtain ⟨-, rfl⟩ | ⟨-, rfl⟩ | ⟨-, rfl⟩ | ⟨-, styled⟩ := type_of_recognized recognized
  · decide
  · decide
  · decide
  · exact ofStyle?_not_mem_unbuilt styled

end WidgetKind

/-- What holds at a widget that was built from a component, whatever was moved into it. -/
structure WidgetNode.Regular (node : WidgetNode) : Prop where
  kind : node.kind ∉ WidgetKind.unbuilt
  children : node.children ≠ [] → node.kind = .frame
  actions : node.actions ≠ [] → node.kind = .toolBar
  menuText : node.kind = .popupMenu →
    node.text = .none ∨ ∃ texts, node.text = .entries texts
  frameText : node.kind = .frame →
    node.text = .none ∨ ∃ title, title ≠ "" ∧ node.text = .single title
  noText : node.kind ∈ WidgetKind.textless → node.text = .none
  toolBarPlace : node.kind = .toolBar → node.geometry = .zero
  styleSheet : node.styleSheet = none ∨
    ∃ color, node.styleSheet = some (Color.backgroundRule node.tag color)

/-- What holds at a widget and at every widget inside it, at any depth. -/
inductive WidgetNode.Everywhere (holdsAt : WidgetNode → Prop) : WidgetNode → Prop
  | node {node : WidgetNode} (here : holdsAt node)
      (below : ∀ child ∈ node.children, Everywhere holdsAt child) : Everywhere holdsAt node

namespace WidgetNode.Everywhere

variable {holdsAt : WidgetNode → Prop} {node : WidgetNode}

theorem atRoot (everywhere : Everywhere holdsAt node) : holdsAt node := by
  cases everywhere with
  | node here _ => exact here

theorem ofChild (everywhere : Everywhere holdsAt node) :
    ∀ child ∈ node.children, Everywhere holdsAt child := by
  cases everywhere with
  | node _ below => exact below

end WidgetNode.Everywhere

namespace Figure

open WidgetNode

variable {metrics : FontMetrics} {areaHeight : Coordinate} {place : Place}
  {component properties : Element} {kind : WidgetKind}

/-! ## Widgets as they are built -/

/-- A style sheet paints the background of the widget's own tag. -/
theorem nodeOf_styleSheet (kind : WidgetKind) (properties : Element) :
    (nodeOf kind properties).styleSheet = none ∨
      ∃ color, (nodeOf kind properties).styleSheet =
        some (Color.backgroundRule (nodeOf kind properties).tag color) := by
  unfold nodeOf
  cases colorOf? properties "BackgroundColor" with
  | none => exact .inl rfl
  | some color => exact .inr ⟨color, rfl⟩

theorem titleOf_eq (properties : Element) :
    titleOf properties = .none ∨ ∃ title, title ≠ "" ∧ titleOf properties = .single title := by
  unfold titleOf
  dsimp only
  split
  next => exact .inl rfl
  next title => exact .inr ⟨_, title, rfl⟩

theorem separated_eq (content : Content) :
    content.separated = .none ∨ ∃ texts, content.separated = .entries texts := by
  cases content with
  | none => exact .inl rfl
  | single text => exact .inr ⟨_, rfl⟩
  | entries texts => exact .inr ⟨texts, rfl⟩

theorem regular_toolBar (properties : Element) (actions : List Action) :
    Regular { nodeOf .toolBar properties with actions } where
  kind := show WidgetKind.toolBar ∉ WidgetKind.unbuilt by decide
  children some := absurd rfl some
  actions _ := rfl
  menuText impossible := by cases impossible
  frameText impossible := by cases impossible
  noText _ := rfl
  toolBarPlace _ := rfl
  styleSheet := nodeOf_styleSheet .toolBar properties

theorem regular_frame (properties : Element) (geometry : Rectangle) (children : List WidgetNode) :
    Regular { nodeOf .frame properties with
      geometry
      text := titleOf properties
      children } where
  kind := show WidgetKind.frame ∉ WidgetKind.unbuilt by decide
  children _ := rfl
  actions some := absurd rfl some
  menuText impossible := by cases impossible
  frameText _ := titleOf_eq properties
  noText textless := absurd textless (show WidgetKind.frame ∉ WidgetKind.textless by decide)
  toolBarPlace impossible := by cases impossible
  styleSheet := nodeOf_styleSheet .frame properties

theorem regular_leaf (recognized : kindOf component properties = .ok kind)
    (notToolBar : kind ≠ .toolBar) (notFrame : kind ≠ .frame) (geometry : Rectangle) :
    Regular { nodeOf kind properties with geometry, text := leafText kind properties } where
  kind := WidgetKind.ofTypeAndStyle_not_mem_unbuilt recognized
  children some := absurd rfl some
  actions some := absurd rfl some
  menuText isMenu := by
    cases (show kind = .popupMenu from isMenu)
    exact separated_eq _
  frameText isFrame := absurd isFrame notFrame
  noText textless := by
    have textless : kind = .axes ∨ kind = .slider ∨ kind = .toolBar := by
      simpa [WidgetKind.textless] using (show kind ∈ WidgetKind.textless from textless)
    obtain rfl | rfl | isToolBar := textless
    · rfl
    · rfl
    · exact absurd isToolBar notToolBar
  toolBarPlace isToolBar := absurd isToolBar notToolBar
  styleSheet := nodeOf_styleSheet kind properties

/-- A widget among those of components side by side is the widget of one of them. -/
theorem mem_widgetsOf {components : Record} {start : Nat} {node : WidgetNode}
    (member : node ∈ (widgetsOf metrics areaHeight place start components).value) :
    ∃ component ∈ components, ∃ place,
      (widgetOf metrics areaHeight place component).value = some node := by
  rw [widgetsOf_eq] at member
  obtain ⟨index, inside, built⟩ := List.mem_flatMap.mp member
  have bound := List.mem_range.mp inside
  refine ⟨components[index], List.getElem_mem bound, place.child (start + index), ?_⟩
  rw [Record.element, List.getElem?_eq_getElem bound] at built
  exact Option.mem_toList.mp built

/-- The widget of a component is regular everywhere.  The induction goes from the components inside a
component to the component; only a frame builds them. -/
theorem regular_of_built (component : Element) {areaHeight : Coordinate} {place : Place}
    {node : WidgetNode}
    (built : (widgetOf metrics areaHeight place component).value = some node) :
    Everywhere Regular node := by
  induction component using Element.childrenInduction generalizing areaHeight place node with
  | step component ih =>
    cases building_of_built built with
    | toolBar properties found recognized =>
      exact .node (regular_toolBar properties _) fun _ inside => nomatch inside
    | frame properties found recognized position positioned =>
      refine .node (regular_frame properties _ _) fun child inside => ?_
      obtain ⟨inner, member, _, builtInside⟩ := mem_widgetsOf inside
      exact ih inner member builtInside
    | leaf properties found kind recognized notToolBar notFrame position positioned =>
      exact .node (regular_leaf recognized notToolBar notFrame _) fun _ inside => nomatch inside

theorem regular_of_mem_nodes {root : Root} {options : FormOptions} {node : WidgetNode}
    (member : node ∈ root.nodes options) : Everywhere Regular node := by
  obtain ⟨index, _, built⟩ := List.mem_flatMap.mp member
  exact regular_of_built _ (Option.mem_toList.mp built)

/-! ## Widgets as they are enclosed -/

/-- Another corner leaves a widget regular; only tool bars have a fixed one. -/
theorem regular_seenFrom {node : WidgetNode} (regular : Everywhere Regular node)
    (notToolBar : node.kind ≠ .toolBar) (frame : WidgetNode) :
    Everywhere Regular (seenFrom frame node) :=
  .node { regular.atRoot with toolBarPlace := fun isToolBar => absurd isToolBar notToolBar }
    regular.ofChild

/-- Further regular children leave a frame regular. -/
theorem regular_withHeld {frame : WidgetNode} (regular : Everywhere Regular frame)
    (isFrame : frame.kind = .frame) {held : List WidgetNode}
    (heldRegular : ∀ node ∈ held, Everywhere Regular node ∧ node.kind ≠ .toolBar) :
    Everywhere Regular (withHeld frame held) := by
  refine .node { regular.atRoot with children := fun _ => isFrame } fun child inside => ?_
  obtain own | taken := List.mem_append.mp inside
  · exact regular.ofChild child own
  · obtain ⟨node, member, rfl⟩ := List.mem_map.mp taken
    exact regular_seenFrom (heldRegular node member).1 (heldRegular node member).2 frame

/-- Enclosure keeps trees regular. -/
theorem regular_of_mem_enclosed {frames others : List WidgetNode}
    (framesRegular : ∀ frame ∈ frames, Everywhere Regular frame ∧ frame.kind = .frame)
    (othersRegular : ∀ node ∈ others, Everywhere Regular node ∧ node.kind ≠ .toolBar)
    {node : WidgetNode} (member : node ∈ enclosed frames others) : Everywhere Regular node := by
  obtain inFront | behind := List.mem_append.mp member
  · obtain ⟨index, bound, rfl⟩ := List.mem_mapIdx.mp inFront
    obtain ⟨regular, isFrame⟩ := framesRegular _ (List.getElem_mem bound)
    apply regular_withHeld regular isFrame
    intro node held
    exact othersRegular node (List.mem_filter.mp held).1
  · exact (othersRegular node (List.mem_filter.mp behind).1).1

/-- The place of a frame on the top level is kept by the frame with what it takes in. -/
theorem enclosed_getElem? {frames others : List WidgetNode} {index : Nat} {frame : WidgetNode}
    (found : frames[index]? = some frame) :
    (enclosed frames others)[index]? = some (withHeld frame (heldAt frames others index)) := by
  obtain ⟨bound, _⟩ := List.getElem?_eq_some_iff.mp found
  rw [enclosed, List.getElem?_append_left (by simpa using bound), List.getElem?_mapIdx, found]
  rfl

theorem drop_enclosed (frames others : List WidgetNode) :
    (enclosed frames others).drop frames.length = unheld frames others := by
  rw [enclosed]
  exact List.drop_left' List.length_mapIdx

/-- Every form is regular.  The widgets are regular everywhere as they are built and as they stand in
the form.  The top level begins with the frames that were built, each with widgets that are neither
frames nor tool bars appended to its children, and ends with such widgets.  The tool bar, if there is
one, is a tool bar without children. -/
theorem formOf_regular {options : FormOptions} {dump : Dump} {answer : Noted Form}
    (built : formOf options dump = .ok answer) :
    ∃ root, IsRoot options dump root ∧
      (∀ node ∈ root.nodes options, Everywhere Regular node) ∧
      (∀ node ∈ answer.value.widgets, Everywhere Regular node) ∧
      (∀ (index : Nat) (frame : WidgetNode), (root.frames options)[index]? = some frame →
        ∃ held : List WidgetNode,
          answer.value.widgets[index]? =
            some { frame with children := frame.children ++ held } ∧
          frame.kind = .frame ∧ ∀ node ∈ held, node.kind ≠ .frame ∧ node.kind ≠ .toolBar) ∧
      (∀ node ∈ answer.value.widgets.drop (root.frames options).length,
        node.kind ≠ .frame ∧ node.kind ≠ .toolBar) ∧
      ∀ toolbar, answer.value.toolbar = some toolbar →
        toolbar.kind = .toolBar ∧ toolbar.children = [] ∧ Everywhere Regular toolbar := by
  obtain ⟨root, isRoot, _, rfl⟩ := formOf_eq_ok_iff.mp built
  have framesRegular : ∀ frame ∈ root.frames options,
      Everywhere Regular frame ∧ frame.kind = .frame := by
    intro frame member
    obtain ⟨among, isFrame⟩ := List.mem_filter.mp member
    exact ⟨regular_of_mem_nodes among, eq_of_beq isFrame⟩
  have loose : ∀ node ∈ root.others options, node.kind ≠ .frame ∧ node.kind ≠ .toolBar :=
    fun node member => isLoose_iff.mp (List.mem_filter.mp member).2
  have othersRegular : ∀ node ∈ root.others options,
      Everywhere Regular node ∧ node.kind ≠ .toolBar := by
    intro node member
    exact ⟨regular_of_mem_nodes (List.mem_filter.mp member).1, (loose node member).2⟩
  refine ⟨root, isRoot, fun node => regular_of_mem_nodes,
    fun node => regular_of_mem_enclosed framesRegular othersRegular, ?_, ?_, ?_⟩
  · intro index frame found
    refine ⟨_, enclosed_getElem? found, (framesRegular frame (List.mem_of_getElem? found)).2, ?_⟩
    intro node taken
    obtain ⟨before, held, rfl⟩ := List.mem_map.mp taken
    exact loose before (List.mem_filter.mp held).1
  · intro node behind
    have behind : node ∈ unheld (root.frames options) (root.others options) :=
      drop_enclosed _ _ ▸ behind
    exact loose node (List.mem_filter.mp behind).1
  · intro toolbar last
    obtain ⟨among, isToolBar⟩ := List.mem_filter.mp (List.mem_of_getLast? last)
    have regular := regular_of_mem_nodes among
    have isToolBar : toolbar.kind = .toolBar := eq_of_beq isToolBar
    refine ⟨isToolBar, ?_, regular⟩
    apply Classical.byContradiction
    intro some
    rw [regular.atRoot.children some] at isToolBar
    cases isToolBar

/-- A component with these properties around these components. -/
def describedComponent (type : String) (properties : List (String × FieldValue))
    (components : Record) : Element :=
  .ofFields
    [("children", .record components), ("properties", .record [.ofFields properties]),
      ("type", .text type)]

/-- A panel with a title and a tool bar inside, a menu with a background that lies inside the panel,
and a tool bar of the window. -/
def titledComponents : Record :=
  [describedComponent "uipanel"
      [("Position", .vector [10, 10, 200, 200]), ("Tag", .text "group"), ("Title", .text "Group")]
      [placedComponent "uitoolbar" "tools" [], placedComponent "uipanel" "inner" [5, 5, 50, 50]],
    describedComponent "uicontrol"
      [("BackgroundColor", .vector [1, 0, 0]), ("Position", .vector [20, 20, 50, 20]),
        ("String", .text "one|two"), ("Style", .text "popupmenu"), ("Tag", .text "menu")]
      [],
    placedComponent "uitoolbar" "bar" []]

/-- The panel is the only widget of the form, and the menu lands in it, behind the widgets that it
holds already. -/
theorem formOf_regular_titled :
    ∃ answer panel, formOf usualOptions (windowDump "pixels" titledComponents) = .ok answer ∧
      (∀ node ∈ answer.value.widgets, Everywhere Regular node) ∧
      answer.value.widgets = [panel] ∧
      (panel.kind, panel.text, panel.styleSheet) = (.frame, .single "Group", none) ∧
      panel.children.map (fun inner => (inner.kind, inner.text, inner.styleSheet)) =
        [(.toolBar, .none, none), (.frame, .none, none),
          (.popupMenu, .entries ["one", "two"], some (Color.backgroundRule "menu" ⟨255, 0, 0⟩))] ∧
      answer.value.toolbar.map (·.tag) = some "bar" := by
  have atTop : (formOf usualOptions (windowDump "pixels" titledComponents)).toOption.map
      (fun answer => answer.value.widgets.map fun node => (node.kind, node.text, node.styleSheet)) =
      some [(.frame, .single "Group", none)] := by
    decide +kernel
  have others : (formOf usualOptions (windowDump "pixels" titledComponents)).toOption.map
      (fun answer => (answer.value.widgets.flatMap fun node =>
          node.children.map fun inner => (inner.kind, inner.text, inner.styleSheet),
        answer.value.toolbar.map (·.tag))) =
      some ([(.toolBar, .none, none), (.frame, .none, none),
          (.popupMenu, .entries ["one", "two"], some (Color.backgroundRule "menu" ⟨255, 0, 0⟩))],
        some "bar") := by
    decide +kernel
  obtain ⟨answer, built, atTop⟩ := exists_ok_of_map_toOption atTop
  obtain ⟨panel, only, shown⟩ := List.map_eq_singleton_iff.mp atTop
  rw [built] at others
  obtain ⟨held, bar⟩ := Prod.mk.inj (Option.some.inj others)
  rw [only, List.flatMap_singleton] at held
  obtain ⟨_, _, _, regular, _⟩ := formOf_regular built
  exact ⟨answer, panel, built, regular, only, shown, held, bar⟩

end Figure

end FigureForm
