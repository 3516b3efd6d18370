/-
# Components that build alike

The builder reads only some fields of a component, and which ones depends on the component's type.
`Alike` relates two components that have the same values in those fields, down to every depth that
is looked into; everything else may differ.  A font's measures come in through the unit of a position
alone.  So two components that are alike match, with the measures of any two fonts that give the
units among them the same scale (`componentsMatch_of_alike`).
-/

import FigureForm.Proofs.Matching

namespace FigureForm

/-- Whether two elements have the same values in the fields of these names. -/
def Element.AgreeOn (names : List String) (first second : Element) : Prop :=
  ∀ name ∈ names, first.field name = second.field name

theorem Element.text?_eq_of_field {first second : Element} {name : String}
    (same : first.field name = second.field name) : first.text? name = second.text? name := by
  rw [text?, same, text?]

theorem Element.textOrEmpty_eq_of_field {first second : Element} {name : String}
    (same : first.field name = second.field name) :
    first.textOrEmpty name = second.textOrEmpty name := by
  rw [textOrEmpty, text?_eq_of_field same, textOrEmpty]

namespace Element.AgreeOn

variable {names : List String} {first second : Element}

theorem refl (names : List String) (element : Element) : AgreeOn names element element :=
  fun _ _ => rfl

theorem mono {fewer : List String} (agree : AgreeOn names first second)
    (among : ∀ name ∈ fewer, name ∈ names) : AgreeOn fewer first second :=
  fun name member => agree name (among name member)

theorem textOrEmpty (agree : AgreeOn names first second) (name : String) (among : name ∈ names) :
    first.textOrEmpty name = second.textOrEmpty name :=
  textOrEmpty_eq_of_field (agree name among)

theorem colorOf? (agree : AgreeOn names first second) (name : String) (among : name ∈ names) :
    Figure.colorOf? first name = Figure.colorOf? second name := by
  rw [Figure.colorOf?, agree name among, Figure.colorOf?]

theorem positionOf? (agree : AgreeOn names first second) (among : "Position" ∈ names) :
    Figure.positionOf? first = Figure.positionOf? second := by
  rw [Figure.positionOf?, agree _ among, Figure.positionOf?]

end Element.AgreeOn

namespace Figure

/-- The fields that are read of a component's properties. -/
def componentFields : List String :=
  ["Tag", "Style", "BackgroundColor", "Position", "Units", "String", "Title"]

/-- The fields that are read of the properties of a tool bar entry. -/
def toolFields : List String :=
  ["Tag", "TooltipString", "CData"]

/-- Whether two elements both have no properties, or properties that agree on these fields. -/
def PropertiesAgree (names : List String) (first second : Element) : Prop :=
  Option.Rel (Element.AgreeOn names) (properties? first) (properties? second)

/-- Whether two entries of tool bars have the same values in the fields that are read. -/
structure ToolsAlike (first second : Element) : Prop where
  type : first.field "type" = second.field "type"
  properties : PropertiesAgree toolFields first second

/-- Whether two components have the same values in the fields that are read.  Of the children only
those of panels and tool bars are looked into, and a component without a record of children counts as
one without children. -/
inductive Alike : Element → Element → Prop
  | intro {first second : Element} (type : first.field "type" = second.field "type")
      (properties : PropertiesAgree componentFields first second)
      (inPanel : first.textOrEmpty "type" = "uipanel" →
        List.Forall₂ Alike first.children second.children)
      (inToolBar : first.textOrEmpty "type" = "uitoolbar" →
        List.Forall₂ ToolsAlike first.children second.children) : Alike first second

theorem PropertiesAgree.refl (names : List String) (element : Element) :
    PropertiesAgree names element element := by
  unfold PropertiesAgree
  cases properties? element with
  | none => exact .none
  | some properties => exact .some (.refl names properties)

theorem ToolsAlike.refl (tool : Element) : ToolsAlike tool tool :=
  ⟨rfl, .refl toolFields tool⟩

theorem Alike.refl (component : Element) : Alike component component := by
  induction component using Element.childrenInduction with
  | step component ih =>
    refine .intro rfl (.refl componentFields component) (fun _ => ?_) fun _ => ?_
    · exact List.forall₂_same.mpr ih
    · exact List.forall₂_same.mpr fun tool _ => .refl tool

/-- A component holds itself and everything that its children hold. -/
inductive Holds : Element → Element → Prop
  | self (component : Element) : Holds component component
  | child {component child inner : Element} (among : child ∈ component.children)
      (inside : Holds child inner) : Holds component inner

theorem holds_iff {component inner : Element} :
    Holds component inner ↔
      inner = component ∨ ∃ child ∈ component.children, Holds child inner := by
  constructor
  · intro holds
    cases holds with
    | self => exact .inl rfl
    | child among inside => exact .inr ⟨_, among, inside⟩
  · rintro (rfl | ⟨child, among, inside⟩)
    · exact .self inner
    · exact .child among inside

/-- Whether the measures of two fonts give the same scale to the unit of every component that a
component holds. -/
def ScaledAlike (metrics others : FontMetrics) (component : Element) : Prop :=
  ∀ inner, Holds component inner → ∀ properties, properties? inner = some properties →
    scaleOf metrics properties = scaleOf others properties

theorem ScaledAlike.child {metrics others : FontMetrics} {component child : Element}
    (scaled : ScaledAlike metrics others component) (among : child ∈ component.children) :
    ScaledAlike metrics others child :=
  fun inner inside => scaled inner (.child among inside)

/-! ## Properties that agree match -/

section

variable {keep : Diagnostic → Bool} {metrics others : FontMetrics} {properties twin : Element}

theorem toolPropertiesMatch_of_agree (agree : Element.AgreeOn toolFields properties twin) :
    ToolPropertiesMatch properties twin where
  name := agree.textOrEmpty "Tag" (by decide)
  tooltip := agree.textOrEmpty "TooltipString" (by decide)
  icon := congrArg Icon.ofField (agree "CData" (by decide))

/-- Properties that place a widget in the same way match when their other fields agree. -/
theorem propertiesMatch_of_agree (placements : PlacementsMatch keep metrics others properties twin)
    (agree : Element.AgreeOn ["Tag", "Style", "Title", "String", "BackgroundColor"]
      properties twin) : PropertiesMatch keep metrics others properties twin where
  toPlacementsMatch := placements
  tag := agree.textOrEmpty "Tag" (by decide)
  style := agree.textOrEmpty "Style" (by decide)
  title := agree.textOrEmpty "Title" (by decide)
  content := congrArg contentOf (agree "String" (by decide))
  color := agree.colorOf? "BackgroundColor" (by decide)

/-- Properties that place a window in the same way match when their other fields agree. -/
theorem windowPropertiesMatch_of_agree
    (placements : PlacementsMatch keep metrics others properties twin)
    (agree : Element.AgreeOn ["Name", "Tag", "MenuBar", "Color"] properties twin) :
    WindowPropertiesMatch keep metrics others properties twin where
  toPlacementsMatch := placements
  title := agree.textOrEmpty "Name" (by decide)
  tag := agree.textOrEmpty "Tag" (by decide)
  menuBar := Element.text?_eq_of_field (agree "MenuBar" (by decide))
  color := agree.colorOf? "Color" (by decide)

theorem placementsMatch_of_agree (agree : Element.AgreeOn ["Position", "Units"] properties twin)
    (scaled : scaleOf metrics properties = scaleOf others properties) :
    PlacementsMatch (fun _ => true) metrics others properties twin where
  position := agree.positionOf? (by decide)
  scale := by rw [scaled, scaleOf, agree.textOrEmpty "Units" (by decide), scaleOf]
  remarks place := by
    rw [List.filter_true, unitOf_eq, unitOf_eq, agree.textOrEmpty "Units" (by decide)]

end

/-! ## Alike components match -/

theorem toolsMatch_of_alike {tool twin : Element} (alike : ToolsAlike tool twin) :
    ToolsMatch tool twin where
  type := Element.text?_eq_of_field alike.type
  properties := imp_of_rel alike.properties fun _ _ _ => toolPropertiesMatch_of_agree

variable {metrics others : FontMetrics}

/-- Alike components whose units have the same scale match, and so do those that they hold. -/
theorem componentsMatch_of_alike {component twin : Element} (alike : Alike component twin)
    (scaled : ScaledAlike metrics others component) :
    ComponentsMatch (fun _ => true) metrics others component twin
      (fun first second => ScaledAlike metrics others first ∧ Alike first second) := by
  obtain ⟨type, properties, inPanel, inToolBar⟩ := alike
  refine ⟨Element.textOrEmpty_eq_of_field type, ?_, fun isPanel => ?_, fun isToolBar => ?_⟩
  · refine imp_of_rel properties fun own _ found agree => ?_
    have scale := scaled component (.self component) own found
    exact propertiesMatch_of_agree (placementsMatch_of_agree (agree.mono (by decide)) scale)
      (agree.mono (by decide))
  · exact (List.forall₂_and_left _ _).mpr ⟨fun child among => scaled.child among, inPanel isPanel⟩
  · exact (inToolBar isToolBar).imp fun tool other => toolsMatch_of_alike

end Figure

end FigureForm
