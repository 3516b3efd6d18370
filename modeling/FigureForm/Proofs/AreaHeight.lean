/-
# How far the height of an area reaches

Every component is placed against the height of the area around it.  That height decides the top
edge of the component's own widget and nothing else: not whether there is a widget, not what is
remarked on, and nothing of what lies inside, because a frame opens an area of its own whose height
comes from the frame's properties.
-/

import FigureForm.Proofs.Components

namespace FigureForm

/-- A widget with another top edge. -/
def WidgetNode.withTop (node : WidgetNode) (y : Coordinate) : WidgetNode :=
  { node with geometry := { node.geometry with y } }

namespace Figure

/-- Two answers that differ at most in the top edge of the widget itself. -/
inductive SameButTop : Option WidgetNode → Option WidgetNode → Prop
  | nothing : SameButTop none none
  | widget (node : WidgetNode) (y : Coordinate) : SameButTop (some node) (some (node.withTop y))

/-- Two builds of one component in areas of two heights.  The cases are the readings of the
component, which know of no area. -/
theorem widgetOf_areaHeight (metrics : FontMetrics) (place : Place) (component : Element)
    (first second : Coordinate) :
    (widgetOf metrics first place component).notes =
        (widgetOf metrics second place component).notes ∧
      SameButTop (widgetOf metrics first place component).value
        (widgetOf metrics second place component).value := by
  cases reading component with
  | withoutProperties missing =>
    rw [widgetOf_of_withoutProperties missing, widgetOf_of_withoutProperties missing]
    exact ⟨rfl, .nothing⟩
  | unrecognized properties found cause refused =>
    rw [widgetOf_of_unrecognized found refused, widgetOf_of_unrecognized found refused]
    exact ⟨rfl, .nothing⟩
  | toolBar properties found recognized =>
    rw [widgetOf_of_toolBar found recognized, widgetOf_of_toolBar found recognized]
    exact ⟨rfl, .widget _ _⟩
  | withoutPosition properties found kind recognized notToolBar missing =>
    rw [widgetOf_of_withoutPosition found recognized notToolBar missing,
      widgetOf_of_withoutPosition found recognized notToolBar missing]
    exact ⟨rfl, .nothing⟩
  | frame properties found recognized position positioned =>
    rw [widgetOf_of_frame found recognized positioned,
      widgetOf_of_frame found recognized positioned]
    exact ⟨rfl, .widget _ (position.resolve (scaleOf metrics properties) second).y⟩
  | leaf properties found kind recognized notToolBar notFrame position positioned =>
    rw [widgetOf_of_leaf found recognized notToolBar notFrame positioned,
      widgetOf_of_leaf found recognized notToolBar notFrame positioned]
    exact ⟨rfl, .widget _ (position.resolve (scaleOf metrics properties) second).y⟩

/-- What a frame holds is built against the height of the frame. -/
theorem children_of_frame {metrics : FontMetrics} {areaHeight : Coordinate} {place : Place}
    {component : Element} {node : WidgetNode}
    (built : (widgetOf metrics areaHeight place component).value = some node)
    (isFrame : node.kind = .frame) :
    node.children = (widgetsOf metrics node.geometry.height place 0 component.children).value := by
  cases building_of_built built with
  | toolBar => cases isFrame
  | frame => rfl
  | leaf _ _ _ _ _ notFrame => exact absurd isFrame notFrame

/-- The height of an area stays on its level.  Built in areas of two heights, a component leads twice
to nothing or to two widgets that are the same but for the top edge of the widget itself, with the
same remarks; a frame's children are built against the frame's own height; and neither depends on
the components built before. -/
theorem widgetOf_height_stays_on_level (metrics : FontMetrics) (first second : Coordinate)
    (parent : Place) (components : Record) (index : Nat) :
    (widgetOf metrics first (parent.child index) (components.element index)).notes =
        (widgetOf metrics second (parent.child index) (components.element index)).notes ∧
      SameButTop (widgetOf metrics first (parent.child index) (components.element index)).value
        (widgetOf metrics second (parent.child index) (components.element index)).value ∧
      (∀ node, (widgetOf metrics first (parent.child index) (components.element index)).value =
          some node → node.kind = .frame →
        node.children = (widgetsOf metrics node.geometry.height (parent.child index) 0
          (components.element index).children).value) ∧
      (widgetsOf metrics first parent 0 components).value =
        (List.range components.length).flatMap fun index =>
          (widgetOf metrics first (parent.child index)
            (components.element index)).value.toList := by
  obtain ⟨notes, values⟩ :=
    widgetOf_areaHeight metrics (parent.child index) (components.element index) first second
  refine ⟨notes, values, fun node built isFrame => children_of_frame built isFrame, ?_⟩
  rw [widgetsOf_eq]
  simp only [Nat.zero_add]

end Figure

end FigureForm
