/-
# What becomes of a component

A component of a figure is one of six things to the builder, and which one it is depends neither on
the place nor on the area it is built for: `Reading` names them, and `reading` finds one for every
component.  For each of the six, one equation says what `widgetOf` answers and what it remarks on,
and `Building` lists the three that a widget comes of.
Statements about whole figures follow by `Element.childrenInduction` from the components to those
that hold them, without looking into `widgetOf` again.
-/

import FigureForm.Figure.Tree

namespace FigureForm

/-- The components inside a component. -/
def Element.children (component : Element) : List Element :=
  (component.record? "children").getD []

/-- A value is smaller than the fields among which it is found. -/
theorem Dictionary.sizeOf_lt_of_get? {name : String} {fields : List (String × FieldValue)}
    {value : FieldValue} (found : Dictionary.get? name fields = some value) :
    sizeOf value < sizeOf fields := by
  induction fields with
  | nil => cases found
  | cons first rest ih =>
    obtain ⟨other, candidate⟩ := first
    rw [Dictionary.get?] at found
    by_cases same : other = name
    · rw [if_pos same] at found
      cases found
      simp only [List.cons.sizeOf_spec, Prod.mk.sizeOf_spec]
      omega
    · rw [if_neg same] at found
      have inRest := ih found
      simp only [List.cons.sizeOf_spec]
      omega

theorem Element.sizeOf_lt_of_mem_children {component child : Element}
    (inside : child ∈ component.children) : sizeOf child < sizeOf component := by
  obtain ⟨fields⟩ := component
  rw [Element.children, Element.record?, Element.field, Element.fields] at inside
  cases found : Dictionary.get? "children" fields with
  | none =>
    rw [found] at inside
    cases inside
  | some value =>
    rw [found] at inside
    have smaller := Dictionary.sizeOf_lt_of_get? found
    cases value with
    | record elements =>
      have member := List.sizeOf_lt_of_mem (show child ∈ elements from inside)
      simp only [FieldValue.record.sizeOf_spec] at smaller
      simp only [Element.ofFields.sizeOf_spec]
      omega
    | _ => cases inside

/-- What passes from the components inside a component to the component itself holds of every
component. -/
theorem Element.childrenInduction {motive : Element → Prop}
    (step : ∀ component : Element, (∀ child ∈ component.children, motive child) → motive component)
    (component : Element) : motive component :=
  step component fun child _inside => childrenInduction step child
termination_by sizeOf component
decreasing_by exact Element.sizeOf_lt_of_mem_children _inside

namespace WidgetKind

/-- A recognized component has one of three types of its own, or it is a control with a style. -/
theorem type_of_recognized {type style : String} {kind : WidgetKind}
    (recognized : ofTypeAndStyle type style = .ok kind) :
    (type = "axes" ∧ kind = .axes) ∨ (type = "uipanel" ∧ kind = .frame) ∨
      (type = "uitoolbar" ∧ kind = .toolBar) ∨
      (type = "uicontrol" ∧ ofStyle? style = some kind) := by
  unfold ofTypeAndStyle at recognized
  dsimp only at recognized
  split at recognized
  next found chosen =>
    cases recognized
    repeat' split at chosen
    all_goals simp_all
  next => cases recognized

theorem ofStyle?_ne {style : String} {kind : WidgetKind} (styled : ofStyle? style = some kind) :
    kind ≠ .frame ∧ kind ≠ .toolBar := by
  unfold ofStyle? at styled
  repeat' split at styled
  all_goals cases styled
  all_goals decide

/-- Only panels become frames. -/
theorem type_of_frame {type style : String} (recognized : ofTypeAndStyle type style = .ok .frame) :
    type = "uipanel" := by
  obtain ⟨-, other⟩ | ⟨isPanel, -⟩ | ⟨-, other⟩ | ⟨-, styled⟩ := type_of_recognized recognized
  · cases other
  · exact isPanel
  · cases other
  · exact absurd rfl (ofStyle?_ne styled).1

/-- Only tool bars become tool bars. -/
theorem type_of_toolBar {type style : String}
    (recognized : ofTypeAndStyle type style = .ok .toolBar) : type = "uitoolbar" := by
  obtain ⟨-, other⟩ | ⟨-, other⟩ | ⟨isToolBar, -⟩ | ⟨-, styled⟩ := type_of_recognized recognized
  · cases other
  · cases other
  · exact isToolBar
  · exact absurd rfl (ofStyle?_ne styled).2

end WidgetKind

namespace Figure

/-- The kind of a component with its properties. -/
def kindOf (component properties : Element) : Except Unrecognized WidgetKind :=
  WidgetKind.ofTypeAndStyle (component.textOrEmpty "type") (properties.textOrEmpty "Style")

/-- What the properties of a component say about its widget, whatever its kind. -/
def nodeOf (kind : WidgetKind) (properties : Element) : WidgetNode :=
  let tag := properties.textOrEmpty "Tag"
  { WidgetNode.plain kind tag with
    styleSheet := (colorOf? properties "BackgroundColor").map (Color.backgroundRule tag) }

/-- The text of a widget that is neither a frame nor a tool bar. -/
def leafText (kind : WidgetKind) (properties : Element) : Content :=
  match kind with
  | .axes | .slider => .none
  | .popupMenu => (contentOf (properties.field "String")).separated
  | _ => contentOf (properties.field "String")

/-- The scale of the unit that properties name. -/
def scaleOf (metrics : FontMetrics) (properties : Element) : Scale :=
  ((LengthUnit.ofWord? (properties.textOrEmpty "Units")).getD .pixels).scale metrics

/-- What a component is to the builder. -/
inductive Reading (component : Element) : Prop
  | withoutProperties (missing : properties? component = none)
  | unrecognized (properties : Element) (found : properties? component = some properties)
      (cause : Unrecognized) (refused : kindOf component properties = .error cause)
  | toolBar (properties : Element) (found : properties? component = some properties)
      (recognized : kindOf component properties = .ok .toolBar)
  | withoutPosition (properties : Element) (found : properties? component = some properties)
      (kind : WidgetKind) (recognized : kindOf component properties = .ok kind)
      (notToolBar : kind ≠ .toolBar) (missing : positionOf? properties = none)
  | frame (properties : Element) (found : properties? component = some properties)
      (recognized : kindOf component properties = .ok .frame) (position : Position)
      (positioned : positionOf? properties = some position)
  | leaf (properties : Element) (found : properties? component = some properties)
      (kind : WidgetKind) (recognized : kindOf component properties = .ok kind)
      (notToolBar : kind ≠ .toolBar) (notFrame : kind ≠ .frame) (position : Position)
      (positioned : positionOf? properties = some position)

/-- Every component is one of the six things. -/
theorem reading (component : Element) : Reading component := by
  cases found : properties? component with
  | none => exact .withoutProperties found
  | some properties =>
    cases recognized : kindOf component properties with
    | error cause => exact .unrecognized properties found cause recognized
    | ok kind =>
      by_cases isToolBar : kind = .toolBar
      · subst isToolBar
        exact .toolBar properties found recognized
      · cases positioned : positionOf? properties with
        | none => exact .withoutPosition properties found kind recognized isToolBar positioned
        | some position =>
          by_cases isFrame : kind = .frame
          · subst isFrame
            exact .frame properties found recognized position positioned
          · exact .leaf properties found kind recognized isToolBar isFrame position positioned

/-- What the unit of a component is worth and what is remarked on: a word that is no unit, unless it
is empty. -/
theorem unitOf_eq (place : Place) (properties : Element) :
    unitOf place properties =
      ⟨(LengthUnit.ofWord? (properties.textOrEmpty "Units")).getD .pixels,
        if (LengthUnit.ofWord? (properties.textOrEmpty "Units")).isNone ∧
            properties.textOrEmpty "Units" ≠ "" then
          [.unknownUnits place (properties.textOrEmpty "Units")]
        else []⟩ := by
  rw [unitOf]
  dsimp only
  cases LengthUnit.ofWord? (properties.textOrEmpty "Units") with
  | some unit => rfl
  | none =>
    by_cases empty : properties.textOrEmpty "Units" = ""
    · simp only [empty, ne_eq, not_true, if_false, and_false]
      rfl
    · simp only [empty, ne_eq, not_false_iff, if_true, Option.isNone_none, and_self]
      rfl

theorem rectangleOf_of_none {metrics : FontMetrics} {areaHeight : Coordinate} {place : Place}
    {tag : String} {properties : Element} (missing : positionOf? properties = none) :
    rectangleOf metrics areaHeight place tag properties =
      ⟨none, [.missingPosition place tag]⟩ := by
  rw [rectangleOf, missing]
  rfl

theorem rectangleOf_of_some {metrics : FontMetrics} {areaHeight : Coordinate} {place : Place}
    {tag : String} {properties : Element} {position : Position}
    (positioned : positionOf? properties = some position) :
    rectangleOf metrics areaHeight place tag properties =
      ⟨some (position.resolve (scaleOf metrics properties) areaHeight),
        (unitOf place properties).notes⟩ := by
  rw [rectangleOf, positioned]
  show Noted.mk (some (position.resolve ((unitOf place properties).value.scale metrics) areaHeight))
    ((unitOf place properties).notes ++ []) = _
  rw [List.append_nil, unitOf_eq]
  rfl

variable {metrics : FontMetrics} {areaHeight : Coordinate} {place : Place}

/-- The fields of a component hold its children in one record. -/
theorem widgetsOfFields_eq (fields : List (String × FieldValue)) :
    widgetsOfFields metrics areaHeight place fields =
      widgetsOf metrics areaHeight place 0 (Element.ofFields fields).children := by
  induction fields with
  | nil =>
    rw [widgetsOfFields]
    show _ = widgetsOf metrics areaHeight place 0 []
    rw [widgetsOf]
  | cons first rest ih =>
    obtain ⟨name, value⟩ := first
    rw [widgetsOfFields]
    by_cases isChildren : name = "children"
    · have children : (Element.ofFields ((name, value) :: rest)).children =
          (value.record?).getD [] := by
        rw [Element.children, Element.record?, Element.field, Element.fields, Dictionary.get?]
        rw [if_pos isChildren]
        rfl
      rw [if_pos isChildren, children]
      cases value with
      | record elements => rw [widgetsOfValue]; rfl
      | _ =>
        show _ = widgetsOf metrics areaHeight place 0 []
        rw [widgetsOfValue, widgetsOf]
        intro components impossible
        cases impossible
    · have children : (Element.ofFields ((name, value) :: rest)).children =
          (Element.ofFields rest).children := by
        unfold Element.children Element.record? Element.field Element.fields
        rw [Dictionary.get?, if_neg isChildren]
      rw [if_neg isChildren, children, ih]

/-! ## One equation for each reading -/

variable {component properties : Element}

theorem widgetOf_of_withoutProperties (missing : properties? component = none) :
    widgetOf metrics areaHeight place component = ⟨none, [.missingProperties place]⟩ := by
  obtain ⟨fields⟩ := component
  rw [widgetOf, missing]
  rfl

theorem widgetOf_of_unrecognized (found : properties? component = some properties)
    {cause : Unrecognized} (refused : kindOf component properties = .error cause) :
    widgetOf metrics areaHeight place component =
      ⟨none, [.unrecognized place cause.type cause.style]⟩ := by
  obtain ⟨fields⟩ := component
  rw [kindOf] at refused
  rw [widgetOf, found]
  dsimp only
  rw [refused]
  rfl

theorem widgetOf_of_toolBar (found : properties? component = some properties)
    (recognized : kindOf component properties = .ok .toolBar) :
    widgetOf metrics areaHeight place component =
      ⟨some { nodeOf .toolBar properties with
          actions := (actionsOf place 0 component.children).value },
        (actionsOf place 0 component.children).notes⟩ := by
  obtain ⟨fields⟩ := component
  rw [kindOf] at recognized
  rw [widgetOf, found]
  dsimp only
  rw [recognized]
  show Noted.mk _ ((actionsOf place 0 (Element.ofFields fields).children).notes ++ []) = _
  rw [List.append_nil]
  rfl

theorem widgetOf_of_withoutPosition (found : properties? component = some properties)
    {kind : WidgetKind} (recognized : kindOf component properties = .ok kind)
    (notToolBar : kind ≠ .toolBar) (missing : positionOf? properties = none) :
    widgetOf metrics areaHeight place component =
      ⟨none, [.missingPosition place (properties.textOrEmpty "Tag")]⟩ := by
  obtain ⟨fields⟩ := component
  rw [kindOf] at recognized
  rw [widgetOf, found]
  dsimp only
  rw [recognized]
  dsimp only
  rw [if_neg notToolBar, rectangleOf_of_none missing]
  rfl

/-- The rectangle of a frame, and with it the height of the area of its children, comes from its own
properties; of the area around it only the vertical place depends. -/
theorem widgetOf_of_frame (found : properties? component = some properties)
    (recognized : kindOf component properties = .ok .frame) {position : Position}
    (positioned : positionOf? properties = some position) :
    widgetOf metrics areaHeight place component =
      ⟨some { nodeOf .frame properties with
          geometry := position.resolve (scaleOf metrics properties) areaHeight
          text := titleOf properties
          children := (widgetsOf metrics (position.pixelHeight (scaleOf metrics properties)) place 0
            component.children).value },
        (unitOf place properties).notes ++
          (widgetsOf metrics (position.pixelHeight (scaleOf metrics properties)) place 0
            component.children).notes⟩ := by
  obtain ⟨fields⟩ := component
  rw [kindOf] at recognized
  rw [widgetOf, found]
  dsimp only
  rw [recognized]
  dsimp only
  rw [if_neg (by decide), rectangleOf_of_some positioned]
  show Noted.mk (some { nodeOf .frame properties with
      geometry := position.resolve (scaleOf metrics properties) areaHeight
      text := titleOf properties
      children := (widgetsOfFields metrics (position.pixelHeight (scaleOf metrics properties)) place
        fields).value })
    ((unitOf place properties).notes ++
      ((widgetsOfFields metrics (position.pixelHeight (scaleOf metrics properties)) place
        fields).notes ++ [])) = _
  rw [widgetsOfFields_eq, List.append_nil]

theorem widgetOf_of_leaf (found : properties? component = some properties) {kind : WidgetKind}
    (recognized : kindOf component properties = .ok kind) (notToolBar : kind ≠ .toolBar)
    (notFrame : kind ≠ .frame) {position : Position}
    (positioned : positionOf? properties = some position) :
    widgetOf metrics areaHeight place component =
      ⟨some { nodeOf kind properties with
          geometry := position.resolve (scaleOf metrics properties) areaHeight
          text := leafText kind properties },
        (unitOf place properties).notes⟩ := by
  obtain ⟨fields⟩ := component
  rw [kindOf] at recognized
  rw [widgetOf, found]
  dsimp only
  rw [recognized]
  dsimp only
  rw [if_neg notToolBar, rectangleOf_of_some positioned]
  have alone : (unitOf place properties).notes ++ [] = (unitOf place properties).notes :=
    List.append_nil _
  cases kind with
  | frame => exact absurd rfl notFrame
  | toolBar => exact absurd rfl notToolBar
  | _ => exact congrArg (Noted.mk _) alone

/-- The widget of a component, after what the component is. -/
inductive Building (metrics : FontMetrics) (areaHeight : Coordinate) (place : Place)
    (component : Element) : WidgetNode → Prop
  | toolBar (properties : Element) (found : properties? component = some properties)
      (recognized : kindOf component properties = .ok .toolBar) :
      Building metrics areaHeight place component
        { nodeOf .toolBar properties with
          actions := (actionsOf place 0 component.children).value }
  | frame (properties : Element) (found : properties? component = some properties)
      (recognized : kindOf component properties = .ok .frame) (position : Position)
      (positioned : positionOf? properties = some position) :
      Building metrics areaHeight place component
        { nodeOf .frame properties with
          geometry := position.resolve (scaleOf metrics properties) areaHeight
          text := titleOf properties
          children := (widgetsOf metrics (position.pixelHeight (scaleOf metrics properties)) place 0
            component.children).value }
  | leaf (properties : Element) (found : properties? component = some properties)
      (kind : WidgetKind) (recognized : kindOf component properties = .ok kind)
      (notToolBar : kind ≠ .toolBar) (notFrame : kind ≠ .frame) (position : Position)
      (positioned : positionOf? properties = some position) :
      Building metrics areaHeight place component
        { nodeOf kind properties with
          geometry := position.resolve (scaleOf metrics properties) areaHeight
          text := leafText kind properties }

/-- A component with a widget is a tool bar, a frame or a leaf. -/
theorem building_of_built {node : WidgetNode}
    (built : (widgetOf metrics areaHeight place component).value = some node) :
    Building metrics areaHeight place component node := by
  cases reading component with
  | withoutProperties missing =>
    rw [widgetOf_of_withoutProperties missing] at built
    cases built
  | unrecognized properties found cause refused =>
    rw [widgetOf_of_unrecognized found refused] at built
    cases built
  | toolBar properties found recognized =>
    rw [widgetOf_of_toolBar found recognized] at built
    cases built
    exact .toolBar properties found recognized
  | withoutPosition properties found kind recognized notToolBar missing =>
    rw [widgetOf_of_withoutPosition found recognized notToolBar missing] at built
    cases built
  | frame properties found recognized position positioned =>
    rw [widgetOf_of_frame found recognized positioned] at built
    cases built
    exact .frame properties found recognized position positioned
  | leaf properties found kind recognized notToolBar notFrame position positioned =>
    rw [widgetOf_of_leaf found recognized notToolBar notFrame positioned] at built
    cases built
    exact .leaf properties found kind recognized notToolBar notFrame position positioned

/-- A widget has the kind of its component, and unless it is a tool bar the component has a
position. -/
theorem kindOf_of_built {node : WidgetNode}
    (built : (widgetOf metrics areaHeight place component).value = some node) :
    ∃ properties, properties? component = some properties ∧
      kindOf component properties = .ok node.kind ∧
      (node.kind ≠ .toolBar → ∃ position, positionOf? properties = some position) := by
  cases building_of_built built with
  | toolBar properties found recognized =>
    exact ⟨properties, found, recognized, fun notToolBar => absurd rfl notToolBar⟩
  | frame properties found recognized position positioned =>
    exact ⟨properties, found, recognized, fun _ => ⟨position, positioned⟩⟩
  | leaf properties found kind recognized notToolBar notFrame position positioned =>
    exact ⟨properties, found, recognized, fun _ => ⟨position, positioned⟩⟩

/-- Components side by side are built each on its own: the widgets, and the remarks, of one do not
depend on those in front of it. -/
theorem widgetsOf_eq (components : Record) (start : Nat) :
    widgetsOf metrics areaHeight place start components =
      ⟨(List.range components.length).flatMap fun index =>
          (widgetOf metrics areaHeight (place.child (start + index))
            (components.element index)).value.toList,
        (List.range components.length).flatMap fun index =>
          (widgetOf metrics areaHeight (place.child (start + index))
            (components.element index)).notes⟩ := by
  induction components generalizing start with
  | nil =>
    rw [widgetsOf]
    rfl
  | cons component rest ih =>
    rw [widgetsOf, ih, List.length_cons, List.range_succ_eq_map, List.flatMap_cons,
      List.flatMap_cons, List.flatMap_map, List.flatMap_map]
    simp only [Nat.add_assoc, Nat.add_comm 1]
    show Noted.mk _ (_ ++ (_ ++ [])) = _
    rw [List.append_nil]
    rfl

/-- The entries of a tool bar become actions each on its own. -/
theorem actionsOf_append (first second : Record) (start : Nat) :
    actionsOf place start (first ++ second) =
      ⟨(actionsOf place start first).value ++ (actionsOf place (start + first.length) second).value,
        (actionsOf place start first).notes ++
          (actionsOf place (start + first.length) second).notes⟩ := by
  induction first generalizing start with
  | nil => rfl
  | cons tool rest ih =>
    rw [List.cons_append, actionsOf, ih, actionsOf, List.length_cons, Nat.add_assoc,
      Nat.add_comm 1]
    simp only [bind, pure, List.append_nil, List.append_assoc]

end Figure

end FigureForm
