/-
# Figures without what builds to nothing

A component that becomes no widget, and an entry of a tool bar that becomes no action, leave at most
a remark behind.  `reduced` takes them out of a component at every level that is looked into: among
the children of frames, and among the entries of tool bars.  What is built is the same with or without
them, although the others move to other indices and so to other places.
-/

import FigureForm.Proofs.Adjustment
import FigureForm.Proofs.Remarks

namespace FigureForm

namespace Figure

/-- The kind of the widget that a component becomes, if it becomes one. -/
def widgetKind? (component : Element) : Option WidgetKind :=
  match properties? component with
  | none => none
  | some properties =>
    match kindOf component properties with
    | .error _ => none
    | .ok kind =>
      if kind = .toolBar ∨ (positionOf? properties).isSome then some kind else none

/-- The action that an entry of a tool bar becomes, if it becomes one. -/
def action? (tool : Element) : Option Action :=
  if isToggleTool tool then
    (properties? tool).map fun properties =>
      { name := properties.textOrEmpty "Tag"
        tooltip := properties.textOrEmpty "TooltipString"
        icon := (Icon.ofField (properties.field "CData")).toOption.getD .empty }
  else none

mutual

/-- A component without what builds to nothing inside it. -/
def reduced : Element → Element
  | .ofFields fields =>
    match widgetKind? (.ofFields fields) with
    | some .frame => .ofFields (reducedFields fields)
    | some .toolBar =>
      (Element.ofFields fields).mapChildren (List.filter fun tool => (action? tool).isSome)
    | _ => .ofFields fields

/-- Fields whose children are reduced. -/
def reducedFields : List (String × FieldValue) → List (String × FieldValue)
  | [] => []
  | (name, value) :: rest =>
    if name = "children" then (name, reducedValue value) :: rest
    else (name, value) :: reducedFields rest

/-- A record of components, reduced; other values hold none. -/
def reducedValue : FieldValue → FieldValue
  | .record components => .record (reducedAll components)
  | value => value

/-- The components that become widgets, each of them reduced. -/
def reducedAll : List Element → List Element
  | [] => []
  | component :: rest =>
    if (widgetKind? component).isSome then reduced component :: reducedAll rest
    else reducedAll rest

end

theorem reducedAll_eq (components : Record) :
    reducedAll components =
      (components.filter fun component => (widgetKind? component).isSome).map reduced := by
  induction components with
  | nil => rw [reducedAll]; rfl
  | cons component rest ih =>
    rw [reducedAll, List.filter_cons, ih]
    split <;> rfl

theorem reducedFields_eq (fields : List (String × FieldValue)) :
    reducedFields fields =
      Dictionary.adjust "children" (FieldValue.mapRecord reducedAll) fields := by
  have value : reducedValue = FieldValue.mapRecord reducedAll := by
    funext value
    cases value <;> rfl
  induction fields with
  | nil => rw [reducedFields]; rfl
  | cons first rest ih =>
    obtain ⟨name, content⟩ := first
    rw [reducedFields, Dictionary.adjust, ih, value]

/-- What reducing a component does to its children, after the widget that it becomes. -/
def reducedInside : Option WidgetKind → Record → Record
  | some .frame => reducedAll
  | some .toolBar => List.filter fun tool => (action? tool).isSome
  | _ => id

theorem reducedInside_nil (kind : Option WidgetKind) : reducedInside kind [] = [] := by
  unfold reducedInside
  split
  · rw [reducedAll]
  · rfl
  · rfl

theorem reduced_eq (component : Element) :
    reduced component = component.mapChildren (reducedInside (widgetKind? component)) := by
  obtain ⟨fields⟩ := component
  rw [reduced]
  split
  next isFrame =>
    rw [isFrame, reducedFields_eq]
    rfl
  next isToolBar =>
    rw [isToolBar]
    rfl
  next notFrame notToolBar =>
    have alone : reducedInside (widgetKind? (.ofFields fields)) = id := by
      rw [reducedInside] <;> assumption
    rw [alone, Element.mapChildren_id]

section

variable (component : Element)

theorem properties?_reduced : properties? (reduced component) = properties? component := by
  rw [reduced_eq, properties?_mapChildren]

theorem kindOf_reduced (properties : Element) :
    kindOf (reduced component) properties = kindOf component properties := by
  rw [kindOf, Element.textOrEmpty, Element.text?, reduced_eq,
    Element.field_mapChildren _ _ (by decide)]
  rfl

theorem children_reduced :
    (reduced component).children = reducedInside (widgetKind? component) component.children := by
  rw [reduced_eq, Element.children_mapChildren _ _ (reducedInside_nil _)]

end

variable {metrics : FontMetrics}

theorem widgetKind?_of_recognized {component properties : Element} {kind : WidgetKind}
    (found : properties? component = some properties)
    (recognized : kindOf component properties = .ok kind) :
    widgetKind? component =
      if kind = .toolBar ∨ (positionOf? properties).isSome then some kind else none := by
  rw [widgetKind?, found]
  dsimp only
  rw [recognized]

theorem widgetKind?_of_positioned {component properties : Element} {kind : WidgetKind}
    (found : properties? component = some properties)
    (recognized : kindOf component properties = .ok kind) {position : Position}
    (positioned : positionOf? properties = some position) : widgetKind? component = some kind := by
  rw [widgetKind?_of_recognized found recognized, positioned]
  exact if_pos (.inr rfl)

theorem widgetKind?_of_toolBar {component properties : Element}
    (found : properties? component = some properties)
    (recognized : kindOf component properties = .ok .toolBar) :
    widgetKind? component = some .toolBar := by
  rw [widgetKind?_of_recognized found recognized]
  exact if_pos (.inl rfl)

/-- A component becomes the same kind of widget everywhere, or none anywhere. -/
theorem kind_widgetOf (metrics : FontMetrics) (areaHeight : Coordinate) (place : Place)
    (component : Element) :
    (widgetOf metrics areaHeight place component).value.map WidgetNode.kind =
      widgetKind? component := by
  cases reading component with
  | withoutProperties missing =>
    rw [widgetOf_of_withoutProperties missing, widgetKind?, missing]
    rfl
  | unrecognized properties found cause refused =>
    rw [widgetOf_of_unrecognized found refused, widgetKind?, found]
    dsimp only
    rw [refused]
    rfl
  | toolBar properties found recognized =>
    rw [widgetOf_of_toolBar found recognized, widgetKind?_of_toolBar found recognized]
    rfl
  | withoutPosition properties found kind recognized notToolBar missing =>
    rw [widgetOf_of_withoutPosition found recognized notToolBar missing,
      widgetKind?_of_recognized found recognized, missing, if_neg (by simpa using notToolBar)]
    rfl
  | frame properties found recognized position positioned =>
    rw [widgetOf_of_frame found recognized positioned,
      widgetKind?_of_positioned found recognized positioned]
    rfl
  | leaf properties found kind recognized notToolBar notFrame position positioned =>
    rw [widgetOf_of_leaf found recognized notToolBar notFrame positioned,
      widgetKind?_of_positioned found recognized positioned]
    rfl

/-- A component is built exactly when it has a kind. -/
theorem isSome_widgetOf (metrics : FontMetrics) (areaHeight : Coordinate) (place : Place)
    (component : Element) :
    (widgetOf metrics areaHeight place component).value.isSome =
      (widgetKind? component).isSome := by
  rw [← kind_widgetOf metrics areaHeight place component, Option.isSome_map]

theorem value_iconOf (place : Place) (action : String) (properties : Element) :
    (iconOf place action properties).value =
      (Icon.ofField (properties.field "CData")).toOption.getD .empty := by
  rw [iconOf]
  cases Icon.ofField (properties.field "CData") <;> rfl

/-- An entry of a tool bar becomes the same action everywhere, or none anywhere. -/
theorem value_actionOf (place : Place) (tool : Element) :
    (actionOf place tool).value = action? tool := by
  rw [actionOf, action?, isToggleTool]
  by_cases toggles : tool.text? "type" = some toggleToolType
  · rw [if_pos toggles, if_pos (beq_iff_eq.mpr toggles)]
    cases properties? tool with
    | none => rfl
    | some properties =>
      have icon := value_iconOf place (properties.textOrEmpty "Tag") properties
      show some (Action.mk _ _ (iconOf place (properties.textOrEmpty "Tag") properties).value) = _
      rw [icon]
      rfl
  · rw [if_neg toggles, if_neg fun same => toggles (beq_iff_eq.mp same)]
    rfl

theorem value_actionsOf (toolbar : Place) (start : Nat) (tools : Record) :
    (actionsOf toolbar start tools).value = tools.filterMap action? := by
  induction tools generalizing start with
  | nil => rfl
  | cons tool rest ih =>
    rw [actionsOf, Noted.value_bind, Noted.value_bind, Noted.value_pure, ih, value_actionOf]
    cases becomes : action? tool with
    | none => rw [List.filterMap_cons_none becomes]; rfl
    | some action => rw [List.filterMap_cons_some becomes]; rfl

/-- The entries that become actions become the same actions without the others. -/
theorem value_actionsOf_filter (toolbar other : Place) (start index : Nat) (tools : Record) :
    (actionsOf toolbar start (tools.filter fun tool => (action? tool).isSome)).value =
      (actionsOf other index tools).value := by
  have kept : (fun tool => if (action? tool).isSome = true then action? tool else none) =
      action? := by
    funext tool
    cases action? tool <;> rfl
  rw [value_actionsOf, value_actionsOf, List.filterMap_filter, kept]

/-! ## What is built stays the same -/

/-- Components of which each builds the same when it is reduced build the same when their list is
reduced, wherever and from whatever index they are counted. -/
theorem value_widgetsOf_reducedAll {components : Record}
    (each : ∀ component ∈ components, ∀ areaHeight place other,
      (widgetOf metrics areaHeight place (reduced component)).value =
        (widgetOf metrics areaHeight other component).value)
    (areaHeight : Coordinate) (place other : Place) (start index : Nat) :
    (widgetsOf metrics areaHeight place start (reducedAll components)).value =
      (widgetsOf metrics areaHeight other index components).value := by
  induction components generalizing start index with
  | nil => rw [reducedAll, widgetsOf, widgetsOf]
  | cons component rest ih =>
    have later := ih fun next member => each next (List.mem_cons_of_mem _ member)
    have own := each component List.mem_cons_self areaHeight (place.child start)
      (other.child index)
    rw [reducedAll]
    by_cases built : (widgetKind? component).isSome = true
    · rw [if_pos built, widgetsOf, widgetsOf]
      simp only [Noted.value_bind, Noted.value_pure]
      rw [own, later]
    · have nothing : (widgetOf metrics areaHeight (other.child index) component).value = none := by
        rw [← isSome_widgetOf metrics areaHeight (other.child index)] at built
        exact Option.not_isSome_iff_eq_none.mp built
      rw [if_neg built, widgetsOf]
      simp only [Noted.value_bind, Noted.value_pure]
      rw [nothing, later start (index + 1)]
      rfl

/-- A component builds the same when it is reduced, wherever it stands.  The induction is on the
components inside a component, which the frames among them look into. -/
theorem value_widgetOf_reduced (metrics : FontMetrics) (component : Element) :
    ∀ areaHeight place other,
      (widgetOf metrics areaHeight place (reduced component)).value =
        (widgetOf metrics areaHeight other component).value := by
  induction component using Element.childrenInduction with
  | step component ih =>
    intro areaHeight place other
    have properties?_eq := properties?_reduced component
    have kind_eq := kindOf_reduced component
    have children_eq := children_reduced component
    cases reading component with
    | withoutProperties missing =>
      rw [widgetOf_of_withoutProperties missing,
        widgetOf_of_withoutProperties (properties?_eq.trans missing)]
    | unrecognized properties found cause refused =>
      rw [widgetOf_of_unrecognized found refused,
        widgetOf_of_unrecognized (properties?_eq.trans found)
          ((kind_eq properties).trans refused)]
    | toolBar properties found recognized =>
      have isToolBar := widgetKind?_of_toolBar found recognized
      have actions := value_actionsOf_filter place other 0 0 component.children
      rw [widgetOf_of_toolBar found recognized,
        widgetOf_of_toolBar (properties?_eq.trans found)
          ((kind_eq properties).trans recognized), children_eq, isToolBar]
      dsimp only [reducedInside]
      rw [actions]
    | withoutPosition properties found kind recognized notToolBar missing =>
      rw [widgetOf_of_withoutPosition found recognized notToolBar missing,
        widgetOf_of_withoutPosition (properties?_eq.trans found)
          ((kind_eq properties).trans recognized) notToolBar missing]
    | frame properties found recognized position positioned =>
      have isFrame := widgetKind?_of_positioned found recognized positioned
      have children := value_widgetsOf_reducedAll ih
        (position.pixelHeight (scaleOf metrics properties)) place other 0 0
      rw [widgetOf_of_frame found recognized positioned,
        widgetOf_of_frame (properties?_eq.trans found)
          ((kind_eq properties).trans recognized) positioned, children_eq, isFrame]
      dsimp only [reducedInside]
      rw [children]
    | leaf properties found kind recognized notToolBar notFrame position positioned =>
      rw [widgetOf_of_leaf found recognized notToolBar notFrame positioned,
        widgetOf_of_leaf (properties?_eq.trans found)
          ((kind_eq properties).trans recognized) notToolBar notFrame positioned]

/-! ## Nothing is skipped any more -/

theorem isSkip_of_mem_notes_actionsOf {toolbar : Place} {start : Nat} {tools : Record}
    (each : ∀ tool ∈ tools, (action? tool).isSome = true) :
    ∀ remark ∈ (actionsOf toolbar start tools).notes, remark.isSkip = false := by
  induction tools generalizing start with
  | nil => simp [actionsOf]
  | cons tool rest ih =>
    intro remark member
    have becomes := each tool List.mem_cons_self
    rw [actionsOf, Noted.notes_bind, Noted.notes_bind, Noted.notes_pure, List.append_nil] at member
    rw [← value_actionOf (toolbar.child start)] at becomes
    rcases List.mem_append.mp member with own | later
    · rcases actionOf_cases (toolbar.child start) tool with
        ⟨-, answer⟩ | ⟨-, answer⟩ | ⟨action, -, answer | ⟨reason, answer⟩⟩
      · rw [answer] at becomes
        cases becomes
      · rw [answer] at becomes
        cases becomes
      · rw [answer] at own
        cases own
      · rw [answer] at own
        rw [List.mem_singleton.mp own]
        rfl
    · exact ih (fun next among => each next (List.mem_cons_of_mem _ among)) remark later

theorem isSkip_of_mem_notes_reducedAll {components : Record}
    (each : ∀ component ∈ components, (widgetKind? component).isSome = true →
      ∀ areaHeight place, ∀ remark ∈ (widgetOf metrics areaHeight place (reduced component)).notes,
        remark.isSkip = false)
    (areaHeight : Coordinate) (place : Place) (start : Nat) :
    ∀ remark ∈ (widgetsOf metrics areaHeight place start (reducedAll components)).notes,
      remark.isSkip = false := by
  induction components generalizing start with
  | nil =>
    rw [reducedAll, widgetsOf]
    simp
  | cons component rest ih =>
    have later := ih fun next member => each next (List.mem_cons_of_mem _ member)
    rw [reducedAll]
    by_cases built : (widgetKind? component).isSome = true
    · rw [if_pos built, widgetsOf, Noted.notes_bind, Noted.notes_bind, Noted.notes_pure,
        List.append_nil]
      intro remark member
      rcases List.mem_append.mp member with own | among
      · exact each component List.mem_cons_self built areaHeight _ remark own
      · exact later (start + 1) remark among
    · rw [if_neg built]
      exact later start

/-- Building a reduced component that becomes a widget skips nothing inside it. -/
theorem isSkip_of_mem_notes_reduced (metrics : FontMetrics) (component : Element) :
    (widgetKind? component).isSome = true →
      ∀ areaHeight place, ∀ remark ∈ (widgetOf metrics areaHeight place (reduced component)).notes,
        remark.isSkip = false := by
  induction component using Element.childrenInduction with
  | step component ih =>
    intro built areaHeight place remark member
    have properties?_eq := properties?_reduced component
    have kind_eq := kindOf_reduced component
    have children_eq := children_reduced component
    cases reading component with
    | withoutProperties missing =>
      rw [widgetKind?, missing] at built
      cases built
    | unrecognized properties found cause refused =>
      rw [widgetKind?, found] at built
      dsimp only at built
      rw [refused] at built
      cases built
    | withoutPosition properties found kind recognized notToolBar missing =>
      rw [widgetKind?_of_recognized found recognized, missing,
        if_neg (by simpa using notToolBar)] at built
      cases built
    | toolBar properties found recognized =>
      have isToolBar := widgetKind?_of_toolBar found recognized
      rw [widgetOf_of_toolBar (properties?_eq.trans found)
        ((kind_eq properties).trans recognized), children_eq, isToolBar] at member
      exact isSkip_of_mem_notes_actionsOf (fun tool among => (List.mem_filter.mp among).2)
        remark member
    | frame properties found recognized position positioned =>
      have isFrame := widgetKind?_of_positioned found recognized positioned
      rw [widgetOf_of_frame (properties?_eq.trans found)
        ((kind_eq properties).trans recognized) positioned, children_eq, isFrame]
        at member
      rcases List.mem_append.mp member with own | inside
      · exact (place?_of_mem_notes_unitOf own).2
      · exact isSkip_of_mem_notes_reducedAll ih _ place 0 remark inside
    | leaf properties found kind recognized notToolBar notFrame position positioned =>
      rw [widgetOf_of_leaf (properties?_eq.trans found)
        ((kind_eq properties).trans recognized) notToolBar notFrame positioned]
        at member
      exact (place?_of_mem_notes_unitOf member).2

end Figure

end FigureForm
