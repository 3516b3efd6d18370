/-
# Reduced figures

The form of a dump depends on its root, and of the root's children only on what they build.  So the
form stays the same when the children are reduced, and so does the fault of a dump without a form.
-/

import FigureForm.Proofs.Reduction
import FigureForm.Proofs.Window

namespace FigureForm

namespace Figure

/-- The record of a figure whose first element, which describes the window, has its children
reduced. -/
def reducedFigure : Record → Record
  | [] => []
  | window :: others => window.mapChildren reducedAll :: others

end Figure

/-- The dump with the children of its figure reduced. -/
def Dump.reduced (opening : String) (dump : Dump) : Dump :=
  dump.mapRoot opening Figure.reducedFigure

namespace Figure

theorem first_reducedFigure (record : Record) :
    (reducedFigure record).first = record.first.mapChildren reducedAll := by
  cases record <;> rfl

/-- The root with its children reduced. -/
def Root.reduced (root : Root) : Root :=
  { root with record := reducedFigure root.record }

theorem isRoot_reduced {options : FormOptions} {dump : Dump} {root : Root}
    (isRoot : IsRoot options dump root) :
    IsRoot options (dump.reduced options.opening) root.reduced where
  found := by
    rw [Dump.reduced, Dump.root?_mapRoot, isRoot.found]
    rfl
  hasProperties := by
    rw [Root.reduced, first_reducedFigure, properties?_mapChildren, isRoot.hasProperties]
  hasPosition := isRoot.hasPosition

namespace Root

variable (root : Root) (options : FormOptions)

theorem nodes_eq :
    root.nodes options =
      (widgetsOf options.metrics (root.window options).height (.top "children") 0
        root.components).value := by
  rw [root.widgetsOf_components]

/-- The same widgets are built directly inside the window. -/
theorem nodes_reduced : root.reduced.nodes options = root.nodes options := by
  have components : root.reduced.components = reducedAll root.components := by
    rw [Root.components, Root.reduced, first_reducedFigure,
      Element.children_mapChildren _ _ (by rw [reducedAll])]
    rfl
  rw [nodes_eq, nodes_eq, components]
  exact value_widgetsOf_reducedAll (fun component _ => value_widgetOf_reduced _ component) _ _ _ _ _

theorem formWith_reduced (widgets : List WidgetNode) :
    root.reduced.formWith options widgets = root.formWith options widgets := by
  rw [formWith, toolbars, nodes_reduced]
  rfl

end Root

/-- A figure and the reduced figure have the same form, or neither has one for the same reason. -/
theorem formOf_reduced (options : FormOptions) (dump : Dump) :
    (formOf options (dump.reduced options.opening)).map Noted.value =
      (formOf options dump).map Noted.value := by
  have root?_eq : (dump.reduced options.opening).root? options.opening =
      (dump.root? options.opening).map fun root => (root.1, reducedFigure root.2) :=
    Dump.root?_mapRoot options.opening reducedFigure dump
  have properties?_eq (record : Record) :
      properties? (reducedFigure record).first = properties? record.first := by
    rw [first_reducedFigure, properties?_mapChildren]
  cases rootReading options dump with
  | rootless missing =>
    rw [missing] at root?_eq
    rw [formOf_of_rootless missing, formOf_of_rootless root?_eq]
  | bare name record found missing =>
    rw [found] at root?_eq
    rw [formOf_of_bareRoot found missing,
      formOf_of_bareRoot root?_eq ((properties?_eq record).trans missing)]
  | unplaced name record found properties hasProperties missing =>
    rw [found] at root?_eq
    rw [formOf_of_unplacedRoot found hasProperties missing,
      formOf_of_unplacedRoot root?_eq ((properties?_eq record).trans hasProperties) missing]
  | usable root isRoot =>
    rw [formOf_of_isRoot isRoot, formOf_of_isRoot (isRoot_reduced isRoot), Root.frames,
      Root.others, Root.nodes_reduced, ← Root.frames, ← Root.others]
    simp only [Root.formWith_reduced]
    cases enclose _ _ <;> rfl

/-- What builds to nothing has no influence on what stands beside it.  Reducing components keeps
exactly those that are built, with the frames among them reduced inside and the tool bars among them
left with exactly the entries that become actions.  The reduced components build the same widgets in
the same order, also when they are counted from another index at another place, and nothing is
skipped among them.  So a figure and its reduced figure have the same form, or the same fault. -/
theorem widgetsOf_reduced (options : FormOptions) (areaHeight : Coordinate) (place other : Place)
    (start index : Nat) (components : Record) :
    reducedAll components =
        (components.filter fun component =>
          (widgetOf options.metrics areaHeight place component).value.isSome).map reduced ∧
      (∀ component, reduced component = component.mapChildren
        (match (widgetOf options.metrics areaHeight place component).value.map WidgetNode.kind with
          | some .frame => reducedAll
          | some .toolBar => List.filter fun tool => (actionOf place tool).value.isSome
          | _ => id)) ∧
      (widgetsOf options.metrics areaHeight place start (reducedAll components)).value =
        (widgetsOf options.metrics areaHeight other index components).value ∧
      (∀ remark ∈
          (widgetsOf options.metrics areaHeight place start (reducedAll components)).notes,
        remark.isSkip = false) ∧
      ∀ dump : Dump,
        ((dump.reduced options.opening).root? options.opening =
          (dump.root? options.opening).map fun root => (root.1, reducedFigure root.2)) ∧
        (formOf options (dump.reduced options.opening)).map Noted.value =
          (formOf options dump).map Noted.value := by
  refine ⟨?_, fun component => ?_, ?_, ?_, fun dump => ⟨?_, formOf_reduced options dump⟩⟩
  · simp only [isSome_widgetOf]
    exact reducedAll_eq components
  · rw [reduced_eq, kind_widgetOf]
    simp only [value_actionOf]
    rfl
  · exact value_widgetsOf_reducedAll
      (fun component _ => value_widgetOf_reduced options.metrics component) _ _ _ _ _
  · exact isSkip_of_mem_notes_reducedAll
      (fun component _ => isSkip_of_mem_notes_reduced options.metrics component) _ _ _
  · exact Dump.root?_mapRoot options.opening reducedFigure dump

-- The button inside the panel stays, and the unknown component in front of it goes.
example :
    (reducedAll
      [.ofFields
        [("children", .record
          [placedComponent "unknown" "nothing" [0, 0, 1, 1],
            placedComponent "uicontrol" "button" [0, 0, 1, 1]]),
          ("properties", .record [.ofFields [("Position", .vector [0, 0, 9, 9])]]),
          ("type", .text "uipanel")],
        placedComponent "uicontrol" "unplaced" []]).map
      (fun component => component.children.map fun child =>
        (properties? child).map fun properties => properties.textOrEmpty "Tag") =
      [[some "button"]] := by
  decide +kernel

end Figure

end FigureForm
