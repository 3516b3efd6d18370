/-
# Where the widgets of a window end up

Every widget that is built directly inside a window ends up in exactly one of four places: at the top
of the form, inside the first frame that holds it, as the tool bar, or as a tool bar that a later one
replaced.  The remarks follow one order: the unit of the window, the components in the order of the
document, the color of the window, the replaced tool bars.  All this holds when the tests of the
walk have answers, except that a frame at the least coordinate cannot take a widget in: the opposite
of its corner overflows, although the difference of the corners would not.
-/

import FigureForm.Proofs.Window

namespace FigureForm.Figure

open WidgetNode

/-- The widgets that some frame is the first to hold, frame after frame. -/
def absorbed (frames others : List WidgetNode) : List WidgetNode :=
  (List.range frames.length).flatMap (heldAt frames others)

theorem absorbed_cons (frame : WidgetNode) (frames others : List WidgetNode) :
    absorbed (frame :: frames) others =
      others.filter (holds frame) ++
        absorbed frames (others.filter fun node => !holds frame node) := by
  unfold absorbed
  rw [List.length_cons, List.range_succ_eq_map, List.flatMap_cons, heldAt_cons_zero,
    List.flatMap_map]
  simp only [heldAt_cons_succ]

/-- Every widget is held by a first frame or by none.  The induction is on the frames: what the frame
in front does not hold is shared out among those behind. -/
theorem perm_absorbed_unheld (frames others : List WidgetNode) :
    others.Perm (unheld frames others ++ absorbed frames others) := by
  induction frames generalizing others with
  | nil =>
    rw [unheld_nil]
    exact (List.append_nil others).symm ▸ List.Perm.refl others
  | cons frame frames ih =>
    rw [unheld_cons, absorbed_cons]
    let free := others.filter fun node => !holds frame node
    calc others.Perm (others.filter (holds frame) ++ free) :=
          (List.filter_append_perm _ _).symm
      List.Perm _ (others.filter (holds frame) ++ (unheld frames free ++ absorbed frames free)) :=
          (ih free).append_left _
      List.Perm _ (unheld frames free ++ (others.filter (holds frame) ++ absorbed frames free)) :=
          List.perm_append_comm_assoc _ _ _

/-- Every widget is a frame, a tool bar or neither. -/
theorem perm_sorted (nodes : List WidgetNode) :
    nodes.Perm (nodes.filter isFrame ++ (nodes.filter isLoose ++ nodes.filter isToolBar)) := by
  let rest := nodes.filter fun node => !node.isFrame
  have loose : rest.filter (fun node => !node.isToolBar) = nodes.filter isLoose := by
    rw [List.filter_filter]
    apply List.filter_congr
    intro node _
    rw [Bool.and_comm]
    rfl
  have toolBars : rest.filter isToolBar = nodes.filter isToolBar := by
    rw [List.filter_filter]
    apply List.filter_congr
    intro node _
    unfold isToolBar isFrame
    cases node.kind <;> rfl
  calc nodes.Perm (nodes.filter isFrame ++ rest) := (List.filter_append_perm _ _).symm
    List.Perm _ (nodes.filter isFrame ++
        (rest.filter isToolBar ++ rest.filter fun node => !node.isToolBar)) :=
        (List.filter_append_perm _ _).symm.append_left _
    _ = nodes.filter isFrame ++ (nodes.filter isToolBar ++ nodes.filter isLoose) := by
        rw [loose, toolBars]
    List.Perm _ (nodes.filter isFrame ++ (nodes.filter isLoose ++ nodes.filter isToolBar)) :=
        List.perm_append_comm.append_left _

/-- The last of some tool bars and those that were replaced are all of them. -/
theorem dropLast_append_toList_getLast? {α : Type} (items : List α) :
    items.dropLast ++ items.getLast?.toList = items := by
  cases last : items.getLast? with
  | none =>
    rw [List.getLast?_eq_none_iff.mp last]
    rfl
  | some item =>
    obtain ⟨before, rfl⟩ := List.getLast?_eq_some_iff.mp last
    rw [List.dropLast_concat]
    rfl

/-- Every widget built inside a window stays at the top, is taken in by a frame, is replaced as a tool
bar or becomes the tool bar. -/
theorem perm_places (nodes : List WidgetNode) :
    nodes.Perm (nodes.filter isFrame ++
      unheld (nodes.filter isFrame) (nodes.filter isLoose) ++
      absorbed (nodes.filter isFrame) (nodes.filter isLoose) ++
      (nodes.filter isToolBar).dropLast ++ (nodes.filter isToolBar).getLast?.toList) := by
  have shared := (perm_absorbed_unheld (nodes.filter isFrame) (nodes.filter isLoose)).append_right
    (nodes.filter isToolBar)
  have placed := (perm_sorted nodes).trans (shared.append_left (nodes.filter isFrame))
  rw [List.append_assoc _ _ (nodes.filter isToolBar).getLast?.toList,
    dropLast_append_toList_getLast?]
  simpa only [List.append_assoc] using placed

/-- A window's widgets and remarks are accounted for.  When the tests of the walk have answers and no
frame at the least coordinate takes a widget in, there is a form: its widgets are the frames with
what each is the first to hold and then the rest, its tool bar is the last one, every widget built
ends up in exactly one of four places, and the remarks stand in one order.  When such a frame takes a
widget in, the opposite of its corner overflows instead. -/
theorem formOf_accounts_for_widgets {options : FormOptions} {dump : Dump} {root : Root}
    (isRoot : IsRoot options dump root)
    (tested : ∀ node ∈ root.others options, Tested (root.frames options) node) :
    let frames := root.frames options
    let others := root.others options
    let toolbars := root.toolbars options
    ((∀ node ∈ others, HasOppositeCorner frames node) →
      ∃ answer, formOf options dump = .ok answer ∧
        enclose frames others = .ok answer.value.widgets ∧
        answer.value.widgets = enclosed frames others ∧
        answer.value.toolbar = toolbars.getLast? ∧
        answer.value.background = colorOf? root.properties "Color" ∧
        (root.nodes options).Perm (frames ++ unheld frames others ++ absorbed frames others ++
          toolbars.dropLast ++ answer.value.toolbar.toList) ∧
        answer.notes = root.unitRemarks ++ root.remarks options ++
          (if answer.value.background.isNone then [.missingWindowColor] else []) ++
          (toolbars.zip toolbars.tail).map fun (replaced, next) =>
            .duplicateToolbar replaced.tag next.tag) ∧
    ((∃ node ∈ others, ¬ HasOppositeCorner frames node) →
      formOf options dump = .error (.overflow .negation)) := by
  intro frames others toolbars
  constructor
  · intro opposite
    have fits : ∀ node ∈ others, Fits frames node := fun node member =>
      fits_iff.mpr ⟨tested node member, opposite node member⟩
    refine ⟨⟨root.formWith options (enclosed frames others), root.allRemarks options⟩,
      formOf_eq_ok_iff.mpr ⟨root, isRoot, fits, rfl⟩, enclose_eq_ok_iff.mpr ⟨fits, rfl⟩, rfl, rfl,
      rfl, perm_places (root.nodes options), rfl⟩
  · rintro ⟨node, member, least⟩
    rw [formOf_of_isRoot isRoot]
    cases walk : enclose frames others with
    | ok widgets => exact absurd (fits_iff.mp (fits_of_enclose walk node member)).2 least
    | error cause => rw [enclose_eq_error tested walk]

/-- Components of all sorts: two tool bars, a panel in front of a control inside it, one of a type
that is skipped, and axes beside the panel. -/
def mixedComponents : Record :=
  [placedComponent "uitoolbar" "first" [], placedComponent "uipanel" "panel" [10, 10, 200, 100],
    placedComponent "uicontrol" "inside" [20, 20, 30, 30], placedComponent "uimenu" "menu" [],
    placedComponent "uitoolbar" "second" [], placedComponent "axes" "outside" [300, 200, 50, 50]]

/-- Of the mixed components the control lands in the panel and the second tool bar replaces the first,
with one remark of each sort in order. -/
theorem formOf_accounts_for_widgets_mixed :
    IsRoot usualOptions (windowDump "cubits" mixedComponents)
        (windowRoot "cubits" mixedComponents) ∧
      (∀ node ∈ (windowRoot "cubits" mixedComponents).others usualOptions,
        Tested ((windowRoot "cubits" mixedComponents).frames usualOptions) node) ∧
      ∃ answer, formOf usualOptions (windowDump "cubits" mixedComponents) = .ok answer ∧
        answer.value.widgets.map (fun node => (node.tag, node.children.map (·.tag))) =
          [("panel", ["inside"]), ("outside", [])] ∧
        answer.value.toolbar.map (·.tag) = some "second" ∧
        answer.notes =
          [.unknownUnits (.top "properties") "cubits",
            .unrecognized ((Place.top "children").child 3) "uimenu" "",
            .missingWindowColor, .duplicateToolbar "first" "second"] := by
  have isRoot := isRoot_windowRoot "cubits" mixedComponents
  let root := windowRoot "cubits" mixedComponents
  have tested : ∀ node ∈ root.others usualOptions, Tested (root.frames usualOptions) node :=
    tested_of_isOk (by decide +kernel)
  have corners : ∀ frame ∈ root.frames usualOptions,
      frame.geometry.x ≠ Int32.minValue ∧ frame.geometry.y ≠ Int32.minValue := by
    decide +kernel
  have opposite : ∀ node ∈ root.others usualOptions,
      HasOppositeCorner (root.frames usualOptions) node := by
    intro node _ index frame _ found
    exact corners frame (List.mem_of_getElem? found)
  obtain ⟨answer, built, -, widgets, toolbar, background, -, notes⟩ :=
    (formOf_accounts_for_widgets isRoot tested).1 opposite
  refine ⟨isRoot, tested, answer, built, ?_, ?_, ?_⟩
  · rw [widgets]
    decide +kernel
  · rw [toolbar]
    decide +kernel
  · rw [notes, background]
    decide +kernel

/-- A panel at the least column around axes. -/
def leastColumnComponents : Record :=
  [placedComponent "uipanel" "panel" [-2147483648, 0, 10, 300],
    placedComponent "axes" "inside" [-2147483648, 5, 2, 2]]

/-- Every test of a widget inside a frame at the least column has an answer, and yet there is no
form. -/
theorem formOf_leastColumn :
    IsRoot usualOptions (windowDump "pixels" leastColumnComponents)
        (windowRoot "pixels" leastColumnComponents) ∧
      (∀ node ∈ (windowRoot "pixels" leastColumnComponents).others usualOptions,
        Tested ((windowRoot "pixels" leastColumnComponents).frames usualOptions) node) ∧
      formOf usualOptions (windowDump "pixels" leastColumnComponents) =
        .error (.overflow .negation) := by
  refine ⟨isRoot_windowRoot _ _, tested_of_isOk (by decide +kernel), ?_⟩
  have fault : fault? (formOf usualOptions (windowDump "pixels" leastColumnComponents)) =
      some (.overflow .negation) := by
    decide +kernel
  exact fault?_eq_some_iff.mp fault

end FigureForm.Figure
