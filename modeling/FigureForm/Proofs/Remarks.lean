/-
# Remarks on skipped components

What building a component remarks on, over every tree of components.  The step statement `Accounted`
says of one component that it is skipped exactly when the only remark says so at its own place, that
all remarks stand at its place or below it, and that they come in the order of the document.  The run
statement `ListAccounted` says the same of components side by side and adds the balance: every one of
them is built or remarked on.  The two carry each other through the tree, since a frame's remarks are
those of its unit and of the components inside it.
-/

import FigureForm.Proofs.Components
import FigureForm.Proofs.Places

namespace FigureForm

namespace Diagnostic

/-- The place of the component that a remark is about. -/
def place? : Diagnostic → Option Place
  | unrecognized place _ _ | missingProperties place | missingPosition place _
  | unknownUnits place _ | malformedIcon place _ _ => some place
  | missingWindowColor | duplicateToolbar _ _ | iconNotStored _ _ => none

/-- Whether a remark says that a component was skipped. -/
def isSkip : Diagnostic → Bool
  | unrecognized _ _ _ | missingProperties _ | missingPosition _ _ => true
  | _ => false

/-- Whether a remark says that a component directly inside another was skipped. -/
def skipsChildOf (place : Place) (diagnostic : Diagnostic) : Bool :=
  diagnostic.isSkip && diagnostic.place?.bind Place.parent? == some place

/-- Whether a remark is about a place or one below it. -/
def Below (place : Place) (diagnostic : Diagnostic) : Prop :=
  ∃ inner, diagnostic.place? = some inner ∧ place.Within inner

/-- Whether a remark is about an earlier place than another. -/
def Precedes (first second : Diagnostic) : Prop :=
  ∃ earlier later, first.place? = some earlier ∧ second.place? = some later ∧
    earlier.Before later

theorem Below.of_within {outer inner : Place} {diagnostic : Diagnostic}
    (within : outer.Within inner) (below : diagnostic.Below inner) : diagnostic.Below outer := by
  obtain ⟨place, isPlace, deeper⟩ := below
  exact ⟨place, isPlace, within.trans deeper⟩

theorem skipsChildOf_eq_true_iff {place : Place} {diagnostic : Diagnostic} :
    diagnostic.skipsChildOf place = true ↔
      diagnostic.isSkip = true ∧ ∃ index, diagnostic.place? = some (place.child index) := by
  rw [skipsChildOf, Bool.and_eq_true, beq_iff_eq, Option.bind_eq_some_iff]
  simp only [Place.parent?_eq_some_iff]
  apply and_congr_right
  intro _
  constructor
  · rintro ⟨inner, isPlace, index, rfl⟩
    exact ⟨index, isPlace⟩
  · rintro ⟨index, isPlace⟩
    exact ⟨place.child index, isPlace, index, rfl⟩

/-- Remarks on different places of one document read differently. -/
theorem Precedes.text_ne {first second : Diagnostic} (precedes : first.Precedes second) :
    first.place?.map Place.text ≠ second.place?.map Place.text := by
  obtain ⟨⟨start, earlier⟩, ⟨otherStart, later⟩, isEarlier, isLater, before⟩ := precedes
  obtain ⟨rfl, inOrder⟩ := before
  rw [isEarlier, isLater]
  intro same
  injection same with sameText
  rw [Place.text_injective sameText] at inOrder
  exact List.lt_irrefl _ inOrder

end Diagnostic

namespace Figure

/-- What holds of the answer for a component at a place. -/
structure Accounted (place : Place) (answer : Noted (Option WidgetNode)) : Prop where
  skipped : answer.value = none →
    ∃ remark, answer.notes = [remark] ∧ remark.isSkip = true ∧ remark.place? = some place
  kept : ∀ node, answer.value = some node →
    ∀ remark ∈ answer.notes, remark.isSkip = true → remark.place? ≠ some place
  below : ∀ remark ∈ answer.notes, remark.Below place
  ordered : answer.notes.Pairwise Diagnostic.Precedes

/-- What holds of the remarks on things side by side, of which so many were expected and so many were
built.  The things are counted from an index. -/
structure ListAccounted (parent : Place) (start expected built : Nat) (notes : List Diagnostic) :
    Prop where
  below : ∀ remark ∈ notes, ∃ index, start ≤ index ∧ remark.Below (parent.child index)
  ordered : notes.Pairwise Diagnostic.Precedes
  balance : expected = built + notes.countP (Diagnostic.skipsChildOf parent)

theorem listAccounted_nil (parent : Place) (start : Nat) : ListAccounted parent start 0 0 [] where
  below := by
    intro remark member
    cases member
  ordered := .nil
  balance := rfl

/-- The thing in front of others side by side: its remarks stand below its own place, and with it the
balance stays even. -/
theorem ListAccounted.cons {parent : Place} {start expected built ownExpected ownBuilt : Nat}
    {own notes : List Diagnostic} (ownBelow : ∀ remark ∈ own, remark.Below (parent.child start))
    (ownOrdered : own.Pairwise Diagnostic.Precedes)
    (ownBalance : ownExpected = ownBuilt + own.countP (Diagnostic.skipsChildOf parent))
    (later : ListAccounted parent (start + 1) expected built notes) :
    ListAccounted parent start (ownExpected + expected) (ownBuilt + built) (own ++ notes) where
  below := by
    intro remark member
    rcases List.mem_append.mp member with among | among
    · exact ⟨start, Nat.le_refl start, ownBelow remark among⟩
    · obtain ⟨index, behind, below⟩ := later.below remark among
      exact ⟨index, Nat.le_of_succ_le behind, below⟩
  ordered := by
    apply List.pairwise_append.mpr
    refine ⟨ownOrdered, later.ordered, ?_⟩
    intro first isOwn second isLater
    obtain ⟨earlier, isEarlier, inOwn⟩ := ownBelow first isOwn
    obtain ⟨index, behind, place, isPlace, inLater⟩ := later.below second isLater
    exact ⟨earlier, place, isEarlier, isPlace,
      Place.before_of_within_children behind inOwn inLater⟩
  balance := by
    have even := later.balance
    rw [List.countP_append]
    omega

/-- A skipped component. -/
theorem accounted_of_skipped {place : Place} {remark : Diagnostic} (isSkip : remark.isSkip = true)
    (isPlace : remark.place? = some place) : Accounted place ⟨none, [remark]⟩ where
  skipped := fun _ => ⟨remark, rfl, isSkip, isPlace⟩
  kept := by
    intro node impossible
    cases impossible
  below := by
    intro other member
    cases List.mem_singleton.mp member
    exact ⟨place, isPlace, Place.within_refl place⟩
  ordered := List.pairwise_singleton _ _

/-- A built component: its own remarks skip nothing, and behind them come those on what lies inside
it. -/
theorem accounted_of_built {place : Place} {node : WidgetNode} {own inside : List Diagnostic}
    {start expected built : Nat}
    (ownPlace : ∀ remark ∈ own, remark.place? = some place ∧ remark.isSkip = false)
    (ownOrdered : own.Pairwise Diagnostic.Precedes)
    (insideAccounted : ListAccounted place start expected built inside) :
    Accounted place ⟨some node, own ++ inside⟩ where
  skipped := by
    intro impossible
    cases impossible
  kept := by
    intro _ _ remark member isSkip isPlace
    rcases List.mem_append.mp member with among | among
    · rw [(ownPlace remark among).2] at isSkip
      cases isSkip
    · obtain ⟨index, -, inner, isInner, within⟩ := insideAccounted.below remark among
      rw [isPlace] at isInner
      cases isInner
      exact (Place.before_of_within_child within).ne rfl
  below := by
    intro remark member
    rcases List.mem_append.mp member with among | among
    · exact ⟨place, (ownPlace remark among).1, Place.within_refl place⟩
    · obtain ⟨index, -, below⟩ := insideAccounted.below remark among
      exact below.of_within (Place.within_child place index)
  ordered := by
    apply List.pairwise_append.mpr
    refine ⟨ownOrdered, insideAccounted.ordered, ?_⟩
    intro first isOwn second isInside
    obtain ⟨index, -, inner, isInner, within⟩ := insideAccounted.below second isInside
    exact ⟨place, inner, (ownPlace first isOwn).1, isInner, Place.before_of_within_child within⟩

/-- A component is either built or skipped, and only its own place counts for the balance of the
components around it. -/
theorem Accounted.balance {parent : Place} {index : Nat} {answer : Noted (Option WidgetNode)}
    (accounted : Accounted (parent.child index) answer) :
    1 = answer.value.toList.length +
      answer.notes.countP (Diagnostic.skipsChildOf parent) := by
  cases value : answer.value with
  | none =>
    obtain ⟨remark, only, isSkip, isPlace⟩ := accounted.skipped value
    have skips : remark.skipsChildOf parent = true :=
      Diagnostic.skipsChildOf_eq_true_iff.mpr ⟨isSkip, index, isPlace⟩
    rw [only, List.countP_singleton, if_pos skips]
    rfl
  | some node =>
    have noSkip : answer.notes.countP (Diagnostic.skipsChildOf parent) = 0 := by
      apply List.countP_eq_zero.mpr
      intro remark member skips
      obtain ⟨isSkip, other, isPlace⟩ := Diagnostic.skipsChildOf_eq_true_iff.mp skips
      obtain ⟨inner, isInner, within⟩ := accounted.below remark member
      rw [isPlace] at isInner
      cases isInner
      rw [← Place.eq_of_within_child within] at isPlace
      exact accounted.kept node value remark member isSkip isPlace
    rw [noSkip]
    rfl

/-- Components side by side, each of which is accounted for wherever it stands. -/
theorem listAccounted (metrics : FontMetrics) (areaHeight : Coordinate) (parent : Place)
    {components : List Element} (start : Nat)
    (each : ∀ component ∈ components, ∀ areaHeight place,
      Accounted place (widgetOf metrics areaHeight place component)) :
    ListAccounted parent start components.length
      (widgetsOf metrics areaHeight parent start components).value.length
      (widgetsOf metrics areaHeight parent start components).notes := by
  induction components generalizing start with
  | nil =>
    rw [widgetsOf]
    exact listAccounted_nil parent start
  | cons component rest ih =>
    have own := each component List.mem_cons_self areaHeight (parent.child start)
    have later := ih (start + 1) fun other member => each other (List.mem_cons_of_mem _ member)
    rw [widgetsOf, List.length_cons, Nat.add_comm]
    show ListAccounted parent start _ (_ ++ _ : List WidgetNode).length (_ ++ (_ ++ []))
    rw [List.append_nil, List.length_append]
    exact .cons own.below own.ordered own.balance later

/-- The remarks on a unit are about the component itself and skip nothing. -/
theorem place?_of_mem_notes_unitOf {place : Place} {properties : Element} {remark : Diagnostic}
    (member : remark ∈ (unitOf place properties).notes) :
    remark.place? = some place ∧ remark.isSkip = false := by
  rw [unitOf_eq] at member
  dsimp only at member
  split at member
  · cases List.mem_singleton.mp member
    exact ⟨rfl, rfl⟩
  · cases member

theorem pairwise_notes_unitOf (place : Place) (properties : Element) :
    (unitOf place properties).notes.Pairwise Diagnostic.Precedes := by
  rw [unitOf_eq]
  dsimp only
  split
  · exact List.pairwise_singleton _ _
  · exact .nil

/-! ## Entries of tool bars -/

/-- Whether an entry of a tool bar is to become an action. -/
def isToggleTool (tool : Element) : Bool :=
  tool.text? "type" == some toggleToolType

/-- The remark on an icon is about the entry itself and skips nothing. -/
theorem notes_iconOf (place : Place) (action : String) (properties : Element) :
    (iconOf place action properties).notes = [] ∨
      ∃ reason, (iconOf place action properties).notes = [.malformedIcon place action reason] := by
  rw [iconOf]
  cases Icon.ofField (properties.field "CData") with
  | ok icon => exact .inl rfl
  | error fault => exact .inr ⟨fault.message, rfl⟩

/-- An entry becomes an action, is skipped with a remark, or is of another type and passed over. -/
theorem actionOf_cases (place : Place) (tool : Element) :
    (isToggleTool tool = false ∧ actionOf place tool = ⟨none, []⟩) ∨
      (isToggleTool tool = true ∧ actionOf place tool = ⟨none, [.missingProperties place]⟩) ∨
      ∃ action, isToggleTool tool = true ∧
        (actionOf place tool = ⟨some action, []⟩ ∨
          ∃ reason, actionOf place tool =
            ⟨some action, [.malformedIcon place action.name reason]⟩) := by
  rw [actionOf, isToggleTool]
  by_cases toggles : tool.text? "type" = some toggleToolType
  · rw [if_pos toggles]
    have isToggle : (tool.text? "type" == some toggleToolType) = true := beq_iff_eq.mpr toggles
    cases properties? tool with
    | none => exact .inr (.inl ⟨isToggle, rfl⟩)
    | some properties =>
      refine .inr (.inr ⟨⟨properties.textOrEmpty "Tag", properties.textOrEmpty "TooltipString",
        (iconOf place (properties.textOrEmpty "Tag") properties).value⟩, isToggle, ?_⟩)
      rcases notes_iconOf place (properties.textOrEmpty "Tag") properties with none | ⟨reason, one⟩
      · exact .inl (congrArg (Noted.mk _) (congrArg (· ++ []) none))
      · exact .inr ⟨reason, congrArg (Noted.mk _) (congrArg (· ++ []) one)⟩
  · rw [if_neg toggles]
    exact .inl ⟨beq_eq_false_iff_ne.mpr toggles, rfl⟩

/-- The entries of a tool bar: those that are to become actions do, or are remarked on. -/
theorem listAccounted_actionsOf (toolbar : Place) (tools : List Element) (start : Nat) :
    ListAccounted toolbar start (tools.countP isToggleTool)
      (actionsOf toolbar start tools).value.length (actionsOf toolbar start tools).notes := by
  induction tools generalizing start with
  | nil => exact listAccounted_nil toolbar start
  | cons tool rest ih =>
    have later := ih (start + 1)
    rw [actionsOf, List.countP_cons, Nat.add_comm]
    show ListAccounted toolbar start _ (_ ++ _ : List Action).length (_ ++ (_ ++ []))
    rw [List.append_nil, List.length_append]
    have isChild : (Diagnostic.missingProperties (toolbar.child start)).skipsChildOf toolbar =
        true :=
      Diagnostic.skipsChildOf_eq_true_iff.mpr ⟨rfl, start, rfl⟩
    rcases actionOf_cases (toolbar.child start) tool with
      ⟨passed, answer⟩ | ⟨toggles, answer⟩ | ⟨action, toggles, answer | ⟨reason, answer⟩⟩
    · rw [answer, passed]
      exact .cons (by simp) .nil rfl later
    · rw [answer, toggles]
      refine .cons ?_ (List.pairwise_singleton _ _) ?_ later
      · intro remark member
        cases List.mem_singleton.mp member
        exact ⟨_, rfl, Place.within_refl _⟩
      · rw [List.countP_singleton, if_pos isChild]
        rfl
    · rw [answer, toggles]
      exact .cons (by simp) .nil rfl later
    · rw [answer, toggles]
      refine .cons ?_ (List.pairwise_singleton _ _) rfl later
      intro remark member
      cases List.mem_singleton.mp member
      exact ⟨_, rfl, Place.within_refl _⟩

/-! ## Whole trees -/

/-- Every component is accounted for, wherever it stands.  The induction is on the components inside
a component, since a frame's remarks are those of its unit and of what lies inside. -/
theorem accounted (metrics : FontMetrics) (component : Element) :
    ∀ areaHeight place, Accounted place (widgetOf metrics areaHeight place component) := by
  induction component using Element.childrenInduction with
  | step component ih =>
    intro areaHeight place
    cases reading component with
    | withoutProperties missing =>
      rw [widgetOf_of_withoutProperties missing]
      exact accounted_of_skipped rfl rfl
    | unrecognized properties found cause refused =>
      rw [widgetOf_of_unrecognized found refused]
      exact accounted_of_skipped rfl rfl
    | toolBar properties found recognized =>
      have noOwn : ∀ remark ∈ ([] : List Diagnostic),
          remark.place? = some place ∧ remark.isSkip = false := by
        intro remark member
        cases member
      rw [widgetOf_of_toolBar found recognized]
      exact accounted_of_built noOwn .nil (listAccounted_actionsOf place component.children 0)
    | withoutPosition properties found kind recognized notToolBar missing =>
      rw [widgetOf_of_withoutPosition found recognized notToolBar missing]
      exact accounted_of_skipped rfl rfl
    | frame properties found recognized position positioned =>
      rw [widgetOf_of_frame found recognized positioned]
      exact accounted_of_built (fun remark => place?_of_mem_notes_unitOf)
        (pairwise_notes_unitOf place properties) (listAccounted metrics _ place 0 ih)
    | leaf properties found kind recognized notToolBar notFrame position positioned =>
      rw [widgetOf_of_leaf found recognized notToolBar notFrame positioned,
        ← List.append_nil (unitOf place properties).notes]
      exact accounted_of_built (fun remark => place?_of_mem_notes_unitOf)
        (pairwise_notes_unitOf place properties) (listAccounted_nil place 0)

/-- Every component directly inside a frame is built or skipped with a remark. -/
theorem length_children_of_frame {metrics : FontMetrics} {areaHeight : Coordinate} {place : Place}
    {component : Element} {node : WidgetNode}
    (built : (widgetOf metrics areaHeight place component).value = some node)
    (isFrame : node.kind = .frame) :
    component.children.length = node.children.length +
      (widgetOf metrics areaHeight place component).notes.countP
        (Diagnostic.skipsChildOf place) := by
  obtain ⟨properties, found, recognized, hasPosition⟩ := kindOf_of_built built
  obtain ⟨position, positioned⟩ := hasPosition (by rw [isFrame]; decide)
  rw [isFrame] at recognized
  have noSkip : (unitOf place properties).notes.countP (Diagnostic.skipsChildOf place) = 0 := by
    apply List.countP_eq_zero.mpr
    intro remark member skips
    rw [Diagnostic.skipsChildOf_eq_true_iff, (place?_of_mem_notes_unitOf member).2] at skips
    cases skips.1
  have inside := listAccounted metrics (position.pixelHeight (scaleOf metrics properties)) place 0
    fun child (_ : child ∈ component.children) => accounted metrics child
  rw [widgetOf_of_frame found recognized positioned] at built ⊢
  cases built
  rw [List.countP_append, noSkip, Nat.zero_add]
  exact inside.balance

/-- Every entry of a tool bar that is to become an action does, or is skipped with a remark. -/
theorem length_actions_of_toolBar {metrics : FontMetrics} {areaHeight : Coordinate} {place : Place}
    {component : Element} {node : WidgetNode}
    (built : (widgetOf metrics areaHeight place component).value = some node)
    (isToolBar : node.kind = .toolBar) :
    component.children.countP isToggleTool = node.actions.length +
      (widgetOf metrics areaHeight place component).notes.countP
        (Diagnostic.skipsChildOf place) := by
  obtain ⟨properties, found, recognized, -⟩ := kindOf_of_built built
  rw [isToolBar] at recognized
  rw [widgetOf_of_toolBar found recognized] at built ⊢
  cases built
  exact (listAccounted_actionsOf place component.children 0).balance

/-- Every skipped component is remarked on once, at its own place and in the order of the document.
Whatever was remarked on before stays in front.  There is no widget exactly when the one remark says
that the component was skipped; a widget has no such remark at its own place; all remarks stand at
that place or below it, strictly in the order of the document, so that no two read as the same place;
and the components inside a frame, and the entries of a tool bar that are to become actions, are as
many as those built and those skipped together. -/
theorem widgetOf_remarks_account_for_skips (metrics : FontMetrics) (areaHeight : Coordinate)
    (parent : Place) (components : Record) (index : Nat) :
    let place := parent.child index
    let component := components.element index
    let answer := widgetOf metrics areaHeight place component
    (∀ (α : Type) (earlier : Noted α),
      (earlier >>= fun _ => answer).notes = earlier.notes ++ answer.notes) ∧
    (answer.value = none ↔
      ∃ remark, answer.notes = [remark] ∧ remark.isSkip = true ∧ remark.place? = some place) ∧
    (∀ node, answer.value = some node →
      ∀ remark ∈ answer.notes, remark.isSkip = true → remark.place? ≠ some place) ∧
    (∀ remark ∈ answer.notes, remark.Below place) ∧
    answer.notes.Pairwise Diagnostic.Precedes ∧
    (answer.notes.map fun remark => remark.place?.map Place.text).Nodup ∧
    (∀ node, answer.value = some node → node.kind = .frame →
      component.children.length =
        node.children.length + answer.notes.countP (Diagnostic.skipsChildOf place)) ∧
    (∀ node, answer.value = some node → node.kind = .toolBar →
      component.children.countP isToggleTool =
        node.actions.length + answer.notes.countP (Diagnostic.skipsChildOf place)) := by
  intro place component answer
  have all : Accounted place answer := accounted metrics component areaHeight place
  refine ⟨fun _ _ => rfl, ⟨all.skipped, ?_⟩, all.kept, all.below, all.ordered, ?_,
    fun node => length_children_of_frame, fun node => length_actions_of_toolBar⟩
  · rintro ⟨remark, only, isSkip, isPlace⟩
    cases value : answer.value with
    | none => rfl
    | some node =>
      have member : remark ∈ answer.notes := only ▸ List.mem_singleton_self remark
      exact absurd isPlace (all.kept node value remark member isSkip)
  · exact List.pairwise_map.mpr (all.ordered.imp Diagnostic.Precedes.text_ne)

end Figure

end FigureForm
