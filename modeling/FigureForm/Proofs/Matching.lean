/-
# Components that match

Two components build the same widget when the same is read of them, whatever else they hold.
`ComponentsMatch` says what has to be the same of one component and its counterpart; a relation in
which all pairs match, and with them what they hold, carries this down whole trees
(`widgetOf_of_matching`) and up to the window and its form (`formOf_of_matching`).

Two things may differ.  The two sides may be measured with different fonts, as long as their units
have the same scale, and the second side may be without some of the remarks that the first makes on
units.
-/

import FigureForm.Proofs.Remarks
import FigureForm.Proofs.Window
import Mathlib.Data.List.Forall2
import Mathlib.Data.Option.Basic

namespace FigureForm

/-- Whether a remark is on a word that is no unit. -/
def Diagnostic.isUnknownUnits : Diagnostic → Bool
  | .unknownUnits _ _ => true
  | _ => false

/-- A value with the remarks of a sort only. -/
def Noted.keeping {α : Type} (keep : Diagnostic → Bool) (noted : Noted α) : Noted α :=
  ⟨noted.value, noted.notes.filter keep⟩

theorem Noted.keeping_of_all {α : Type} {keep : Diagnostic → Bool} {noted : Noted α}
    (all : ∀ remark ∈ noted.notes, keep remark = true) : noted.keeping keep = noted := by
  rw [keeping, List.filter_eq_self.mpr all]

namespace Figure

/-! ## What has to be the same -/

section

variable (keep : Diagnostic → Bool) (metrics others : FontMetrics) (first second : Element)

/-- Whether two properties place a widget or a window in the same way.  The second are remarked on
like the first, but for the remarks that are not kept. -/
structure PlacementsMatch : Prop where
  position : positionOf? first = positionOf? second
  scale : scaleOf metrics first = scaleOf others second
  remarks : ∀ place, (unitOf place second).notes = (unitOf place first).notes.filter keep

/-- Whether the same is read of the properties of two components. -/
structure PropertiesMatch : Prop extends PlacementsMatch keep metrics others first second where
  tag : first.textOrEmpty "Tag" = second.textOrEmpty "Tag"
  style : first.textOrEmpty "Style" = second.textOrEmpty "Style"
  title : first.textOrEmpty "Title" = second.textOrEmpty "Title"
  content : contentOf (first.field "String") = contentOf (second.field "String")
  color : colorOf? first "BackgroundColor" = colorOf? second "BackgroundColor"

/-- Whether the same is read of the properties of two windows. -/
structure WindowPropertiesMatch : Prop
    extends PlacementsMatch keep metrics others first second where
  title : first.textOrEmpty "Name" = second.textOrEmpty "Name"
  tag : first.textOrEmpty "Tag" = second.textOrEmpty "Tag"
  menuBar : first.text? "MenuBar" = second.text? "MenuBar"
  color : colorOf? first "Color" = colorOf? second "Color"

/-- Whether the same is read of the properties of two entries of tool bars. -/
structure ToolPropertiesMatch : Prop where
  name : first.textOrEmpty "Tag" = second.textOrEmpty "Tag"
  tooltip : first.textOrEmpty "TooltipString" = second.textOrEmpty "TooltipString"
  icon : Icon.ofField (first.field "CData") = Icon.ofField (second.field "CData")

/-- Whether the same is read of two entries of tool bars. -/
structure ToolsMatch : Prop where
  type : first.text? "type" = second.text? "type"
  properties : Option.Rel ToolPropertiesMatch (properties? first) (properties? second)

/-- Whether the same is read of two components, and what they hold is related. -/
structure ComponentsMatch (like : Element → Element → Prop) : Prop where
  type : first.textOrEmpty "type" = second.textOrEmpty "type"
  properties : Option.Rel (PropertiesMatch keep metrics others)
    (properties? first) (properties? second)
  inPanel : first.textOrEmpty "type" = "uipanel" →
    List.Forall₂ like first.children second.children
  inToolBar : first.textOrEmpty "type" = "uitoolbar" →
    List.Forall₂ ToolsMatch first.children second.children

end

/-- Two optional things that are related are both missing or both there. -/
theorem cases_of_rel {α : Type} {related : α → α → Prop} {first second : Option α}
    (rel : Option.Rel related first second) :
    (first = none ∧ second = none) ∨
      ∃ own twin, first = some own ∧ second = some twin ∧ related own twin := by
  cases rel with
  | none => exact .inl ⟨rfl, rfl⟩
  | some both => exact .inr ⟨_, _, rfl, rfl, both⟩

/-- Optional things are related in another way when the things there are. -/
theorem imp_of_rel {α : Type} {related wanted : α → α → Prop} {first second : Option α}
    (rel : Option.Rel related first second)
    (imp : ∀ own twin, first = some own → related own twin → wanted own twin) :
    Option.Rel wanted first second := by
  cases rel with
  | none => exact .none
  | some both => exact .some (imp _ _ rfl both)

/-! ## Entries of tool bars -/

theorem actionOf_of_matching {first second : Element} (same : ToolsMatch first second)
    (place : Place) : actionOf place second = actionOf place first := by
  rw [actionOf, actionOf, same.type]
  obtain ⟨missing, missing'⟩ | ⟨own, twin, found, found', agree⟩ := cases_of_rel same.properties
  · rw [missing, missing']
  · have icon : iconOf place (own.textOrEmpty "Tag") twin =
        iconOf place (own.textOrEmpty "Tag") own := by
      rw [iconOf, ← agree.icon, iconOf]
    rw [found, found']
    dsimp only
    rw [← agree.name, ← agree.tooltip, icon]

theorem actionsOf_of_matching {first second : Record}
    (same : List.Forall₂ ToolsMatch first second) (place : Place) (start : Nat) :
    actionsOf place start second = actionsOf place start first := by
  induction same generalizing start with
  | nil => rfl
  | cons tool _ ih => rw [actionsOf, actionsOf, actionOf_of_matching tool, ih]

/-- No remark on an entry of a tool bar is on a unit. -/
theorem isUnknownUnits_of_mem_notes_actionsOf {toolbar : Place} {start : Nat} {tools : Record} :
    ∀ remark ∈ (actionsOf toolbar start tools).notes, remark.isUnknownUnits = false := by
  induction tools generalizing start with
  | nil => simp [actionsOf]
  | cons tool rest ih =>
    intro remark member
    rw [actionsOf, Noted.notes_bind, Noted.notes_bind, Noted.notes_pure, List.append_nil] at member
    rcases List.mem_append.mp member with own | later
    · rcases actionOf_cases (toolbar.child start) tool with
        ⟨-, answer⟩ | ⟨-, answer⟩ | ⟨action, -, answer | ⟨reason, answer⟩⟩
      all_goals rw [answer] at own
      · cases own
      · rw [List.mem_singleton.mp own]
        rfl
      · cases own
      · rw [List.mem_singleton.mp own]
        rfl
    · exact ih remark later

/-! ## Components -/

section

variable {keep : Diagnostic → Bool} {metrics others : FontMetrics}

section

variable {properties twin : Element} (same : PropertiesMatch keep metrics others properties twin)
include same

theorem nodeOf_of_matching (kind : WidgetKind) : nodeOf kind twin = nodeOf kind properties := by
  rw [nodeOf, ← same.tag, ← same.color, nodeOf]

theorem leafText_of_matching (kind : WidgetKind) :
    leafText kind twin = leafText kind properties := by
  cases kind <;> simp only [leafText, same.content]

theorem titleOf_of_matching : titleOf twin = titleOf properties := by
  rw [titleOf, ← same.title, titleOf]

end

variable {like : Element → Element → Prop}

/-- Components side by side build the same when each of them does. -/
theorem widgetsOf_of_each {first second : Record}
    (each : List.Forall₂ (fun component twin => ∀ areaHeight place,
      widgetOf others areaHeight place twin =
        (widgetOf metrics areaHeight place component).keeping keep) first second)
    (areaHeight : Coordinate) (place : Place) (start : Nat) :
    widgetsOf others areaHeight place start second =
      (widgetsOf metrics areaHeight place start first).keeping keep := by
  induction each generalizing start with
  | nil =>
    rw [widgetsOf, widgetsOf]
    rfl
  | cons own _ ih =>
    rw [widgetsOf, widgetsOf, own, ih]
    simp [Noted.keeping, bind, pure]

variable (kept : ∀ remark : Diagnostic, remark.isUnknownUnits = false → keep remark = true)
  (matching : ∀ {first second}, like first second →
    ComponentsMatch keep metrics others first second like)
include kept matching

/-- Related components become the same widget with the same remarks, but for those that are not
kept.  The induction is on what the first component holds; the frames among the readings look into
it. -/
theorem widgetOf_of_matching (component : Element) :
    ∀ twin, like component twin → ∀ areaHeight place,
      widgetOf others areaHeight place twin =
        (widgetOf metrics areaHeight place component).keeping keep := by
  induction component using Element.childrenInduction with
  | step component ih =>
    intro twin alike areaHeight place
    have whole (widget : Option WidgetNode) {remark : Diagnostic}
        (other : remark.isUnknownUnits = false) :
        (Noted.mk widget [remark]).keeping keep = ⟨widget, [remark]⟩ :=
      Noted.keeping_of_all fun _ member => List.mem_singleton.mp member ▸ kept remark other
    obtain ⟨type, properties, inPanel, inToolBar⟩ := matching alike
    obtain ⟨missing, missing'⟩ | ⟨own, other, found, found', same⟩ := cases_of_rel properties
    · rw [widgetOf_of_withoutProperties missing, widgetOf_of_withoutProperties missing', whole _ rfl]
    have kind : kindOf twin other = kindOf component own := by
      rw [kindOf, ← type, ← same.style, kindOf]
    cases reading component with
    | withoutProperties missing =>
      rw [found] at missing
      cases missing
    | unrecognized properties found₁ cause refused =>
      cases found.symm.trans found₁
      rw [widgetOf_of_unrecognized found refused,
        widgetOf_of_unrecognized found' (kind.trans refused), whole _ rfl]
    | toolBar properties found₁ recognized =>
      cases found.symm.trans found₁
      have actions := actionsOf_of_matching (inToolBar (WidgetKind.type_of_toolBar recognized))
        place 0
      rw [widgetOf_of_toolBar found recognized,
        widgetOf_of_toolBar found' (kind.trans recognized), nodeOf_of_matching same, actions]
      refine (Noted.keeping_of_all fun remark member => ?_).symm
      exact kept remark (isUnknownUnits_of_mem_notes_actionsOf remark member)
    | withoutPosition properties found₁ kind₁ recognized notToolBar missing =>
      cases found.symm.trans found₁
      rw [widgetOf_of_withoutPosition found recognized notToolBar missing,
        widgetOf_of_withoutPosition found' (kind.trans recognized) notToolBar
          (same.position.symm.trans missing), ← same.tag, whole _ rfl]
    | frame properties found₁ recognized position₁ positioned =>
      cases found.symm.trans found₁
      have each := (List.forall₂_and_left _ _).mpr
        ⟨ih, inPanel (WidgetKind.type_of_frame recognized)⟩
      have children := widgetsOf_of_each
        (each.imp fun child twin both => both.1 twin both.2)
        (position₁.pixelHeight (scaleOf metrics own)) place 0
      rw [widgetOf_of_frame found recognized positioned,
        widgetOf_of_frame found' (kind.trans recognized) (same.position.symm.trans positioned),
        nodeOf_of_matching same, titleOf_of_matching same, ← same.scale, same.remarks, children,
        Noted.keeping, Noted.keeping, List.filter_append]
    | leaf properties found₁ kind₁ recognized notToolBar notFrame position₁ positioned =>
      cases found.symm.trans found₁
      rw [widgetOf_of_leaf found recognized notToolBar notFrame positioned,
        widgetOf_of_leaf found' (kind.trans recognized) notToolBar notFrame
          (same.position.symm.trans positioned),
        nodeOf_of_matching same, leafText_of_matching same, ← same.scale, same.remarks,
        Noted.keeping]

theorem widgetsOf_of_matching {first second : Record} (alike : List.Forall₂ like first second)
    (areaHeight : Coordinate) (place : Place) (start : Nat) :
    widgetsOf others areaHeight place start second =
      (widgetsOf metrics areaHeight place start first).keeping keep :=
  widgetsOf_of_each (alike.imp fun component twin both =>
    widgetOf_of_matching kept matching component twin both) areaHeight place start

end

/-! ## Windows -/

section

variable {keep : Diagnostic → Bool} {options others : FormOptions}
  (kept : ∀ remark : Diagnostic, remark.isUnknownUnits = false → keep remark = true)

/-- Whether two roots lead to the same form up to its font and the remarks that are not kept: the same
is read of their windows, and the same is built of their components in any area. -/
structure RootsMatch (keep : Diagnostic → Bool) (options others : FormOptions) (root twin : Root) :
    Prop where
  properties : WindowPropertiesMatch keep options.metrics others.metrics
    root.properties twin.properties
  position : root.position = twin.position
  built : ∀ areaHeight,
    widgetsOf others.metrics areaHeight (.top "children") 0 twin.components =
      (widgetsOf options.metrics areaHeight (.top "children") 0 root.components).keeping keep

namespace RootsMatch

variable {root twin : Root} (same : RootsMatch keep options others root twin)
include same

theorem window : twin.window others = root.window options := by
  rw [Root.window, ← same.position, ← same.properties.scale, Root.window]

theorem nodes_and_remarks :
    twin.nodes others = root.nodes options ∧
      twin.remarks others = (root.remarks options).filter keep := by
  have built := same.built (root.window options).height
  rw [root.widgetsOf_components, ← same.window, twin.widgetsOf_components] at built
  exact Noted.mk.inj built

theorem formWith (widgets : List WidgetNode) :
    twin.formWith others widgets =
      { root.formWith options widgets with font := others.font } := by
  rw [Root.formWith, Root.toolbars, same.nodes_and_remarks.1, same.window, ← same.properties.title,
    ← same.properties.tag, ← same.properties.menuBar, ← same.properties.color]
  rfl

include kept in
theorem allRemarks : twin.allRemarks others = (root.allRemarks options).filter keep := by
  have unit : twin.unitRemarks = root.unitRemarks.filter keep := by
    have remarks := same.properties.remarks (.top "properties")
    rw [unitOf_eq, unitOf_eq] at remarks
    exact remarks
  have color : twin.colorRemarks = root.colorRemarks.filter keep := by
    rw [Root.colorRemarks, Root.colorRemarks, ← same.properties.color]
    split
    · rw [List.filter_cons_of_pos (kept _ rfl), List.filter_nil]
    · rw [List.filter_nil]
  have replacements (toolbars : List WidgetNode) :
      (replacementsAmong toolbars).filter keep = replacementsAmong toolbars := by
    apply List.filter_eq_self.mpr
    intro remark member
    obtain ⟨_, _, rfl⟩ := List.mem_map.mp member
    exact kept _ rfl
  rw [Root.allRemarks, Root.allRemarks, unit, color, Root.toolbars, same.nodes_and_remarks.1,
    same.nodes_and_remarks.2, ← Root.toolbars, List.filter_append, List.filter_append,
    List.filter_append, replacements]

end RootsMatch

variable {like : Element → Element → Prop}
  (matching : ∀ {first second}, like first second →
    ComponentsMatch keep options.metrics others.metrics first second like)
include kept matching

/-- Two roots of one name, whose windows match and hold related components, have the same form up to
the font and the remarks that are not kept, or neither has one for the same reason. -/
theorem formOf_of_matching {dump other : Dump} {name : String} {record twin : Record}
    (found : dump.root? options.opening = some (name, record))
    (found' : other.root? others.opening = some (name, twin))
    (properties : Option.Rel (WindowPropertiesMatch keep options.metrics others.metrics)
      (properties? record.first) (properties? twin.first))
    (children : List.Forall₂ like record.first.children twin.first.children) :
    formOf others other = (formOf options dump).map fun noted =>
      ⟨{ noted.value with font := others.font }, noted.notes.filter keep⟩ := by
  obtain ⟨missing, missing'⟩ | ⟨own, copied, isOwn, isCopied, agree⟩ := cases_of_rel properties
  · rw [formOf_of_bareRoot found missing, formOf_of_bareRoot found' missing']
    rfl
  cases hasPosition : positionOf? own with
  | none =>
    rw [formOf_of_unplacedRoot found isOwn hasPosition,
      formOf_of_unplacedRoot found' isCopied (agree.position.symm.trans hasPosition)]
    rfl
  | some placed =>
    have isRoot : IsRoot options dump ⟨name, record, own, placed⟩ := ⟨found, isOwn, hasPosition⟩
    have isTwin : IsRoot others other ⟨name, twin, copied, placed⟩ :=
      ⟨found', isCopied, agree.position.symm.trans hasPosition⟩
    have roots : RootsMatch keep options others ⟨name, record, own, placed⟩
        ⟨name, twin, copied, placed⟩ :=
      { properties := agree
        position := rfl
        built := fun areaHeight => widgetsOf_of_matching kept matching children areaHeight _ 0 }
    rw [formOf_of_isRoot isRoot, formOf_of_isRoot isTwin, Root.frames, Root.others,
      roots.nodes_and_remarks.1, ← Root.frames, ← Root.others]
    cases enclose (Root.frames _ options) (Root.others _ options) with
    | error cause => rfl
    | ok widgets =>
      dsimp only
      rw [roots.formWith, roots.allRemarks kept]
      rfl

end

/-- A form names the font that was asked for. -/
theorem font_of_formOf {options : FormOptions} {dump : Dump} {noted : Noted Form}
    (built : formOf options dump = .ok noted) : noted.value.font = options.font := by
  obtain ⟨root, isRoot, -, rfl⟩ := formOf_eq_ok_iff.mp built
  rfl

/-! ## Changes throughout a figure -/

/-- A change of components that keeps their types, reaches the components inside them, and turns
properties into properties that match. -/
structure MatchingChange (keep : Diagnostic → Bool) (metrics : FontMetrics)
    (change changeProperties : Element → Element) : Prop where
  empty : change Element.empty = Element.empty
  type : ∀ component, (change component).text? "type" = component.text? "type"
  properties : ∀ component,
    properties? (change component) = (properties? component).map changeProperties
  children : ∀ component, (change component).children = component.children.map change
  ofTool : ∀ properties, ToolPropertiesMatch properties (changeProperties properties)
  ofComponent : ∀ properties,
    PropertiesMatch keep metrics metrics properties (changeProperties properties)
  ofWindow : ∀ properties,
    WindowPropertiesMatch keep metrics metrics properties (changeProperties properties)

namespace MatchingChange

/-- Optional properties match what they are changed into when all properties do. -/
theorem rel_map {related : Element → Element → Prop} {change : Element → Element}
    (each : ∀ properties, related properties (change properties)) (properties : Option Element) :
    Option.Rel related properties (properties.map change) := by
  cases properties with
  | none => exact .none
  | some own => exact .some (each own)

variable {keep : Diagnostic → Bool} {metrics : FontMetrics}
  {change changeProperties : Element → Element}
  (matching : MatchingChange keep metrics change changeProperties)
include matching

theorem toolsMatch (tool : Element) : ToolsMatch tool (change tool) where
  type := (matching.type tool).symm
  properties := by
    rw [matching.properties]
    exact rel_map matching.ofTool _

/-- Every component matches what it is changed into, and so do those that it holds. -/
theorem componentsMatch (component : Element) :
    ComponentsMatch keep metrics metrics component (change component)
      (fun first second => second = change first) where
  type := by rw [Element.textOrEmpty, Element.textOrEmpty, matching.type]
  properties := by
    rw [matching.properties]
    exact rel_map matching.ofComponent _
  inPanel _ := by
    rw [matching.children, List.forall₂_map_right_iff, List.forall₂_same]
    exact fun child _ => rfl
  inToolBar _ := by
    rw [matching.children, List.forall₂_map_right_iff, List.forall₂_same]
    exact fun tool _ => matching.toolsMatch tool

theorem first_map (record : Record) : Record.first (record.map change) = change record.first := by
  cases record with
  | nil => exact matching.empty.symm
  | cons component rest => rfl

end MatchingChange

/-- A dump whose root is changed in this way has the same form, with the remarks that are kept, or
none for the same reason. -/
theorem formOf_of_matchingChange {keep : Diagnostic → Bool} {options : FormOptions}
    {change changeProperties : Element → Element}
    (kept : ∀ remark : Diagnostic, remark.isUnknownUnits = false → keep remark = true)
    (matching : MatchingChange keep options.metrics change changeProperties) {dump other : Dump}
    (found : other.root? options.opening =
      (dump.root? options.opening).map fun root => (root.1, root.2.map change)) :
    formOf options other = (formOf options dump).map (Noted.keeping keep) := by
  have counterparts {first second : Element} (counterpart : second = change first) :
      ComponentsMatch keep options.metrics options.metrics first second
        (fun first second => second = change first) :=
    counterpart ▸ matching.componentsMatch first
  cases isRoot : dump.root? options.opening with
  | none =>
    rw [isRoot] at found
    rw [formOf_of_rootless isRoot, formOf_of_rootless found]
    rfl
  | some root =>
    rw [isRoot] at found
    have whole := formOf_of_matching kept counterparts isRoot found
      (by
        rw [matching.first_map, matching.properties]
        exact MatchingChange.rel_map matching.ofWindow _)
      (by
        rw [matching.first_map, matching.children, List.forall₂_map_right_iff, List.forall₂_same]
        exact fun child _ => rfl)
    rw [whole]
    cases built : formOf options dump with
    | error fault => rfl
    | ok noted =>
      rw [← font_of_formOf built]
      rfl

end Figure

end FigureForm
