/-
# What outlines of forms show

`ShownAlike` relates forms that differ in the pixels of icons and in how an empty text is kept, and in
nothing else.  Forms with the same outline are those that are alike in this sense
(`Form.render_outline_eq_iff`).  A widget leaves out some members of its outline, but the names of the
others tell which ones, since no name is there twice (`present_injective`).
-/

import FigureForm.Form.Outline
import FigureForm.Proofs.OutlineText
import Mathlib.Data.List.Forall2

namespace FigureForm

/-! ## Relations -/

/-- Whether two contents are the same or both empty. -/
def Content.ShownAlike (first second : Content) : Prop :=
  first = second ∨ first.isEmpty = true ∧ second.isEmpty = true

/-- Whether two actions are the same but for the pixels of their icons. -/
@[mk_iff] structure Action.ShownAlike (first second : Action) : Prop where
  name : first.name = second.name
  tooltip : first.tooltip = second.tooltip
  width : first.icon.width = second.icon.width
  height : first.icon.height = second.icon.height

/-- Whether two widgets are the same but for empty contents and pixels of icons at any depth. -/
@[mk_iff] inductive WidgetNode.ShownAlike : WidgetNode → WidgetNode → Prop
  | intro {first second : WidgetNode} (kind : first.kind = second.kind)
      (tag : first.tag = second.tag) (text : first.text.ShownAlike second.text)
      (geometry : first.geometry = second.geometry)
      (styleSheet : first.styleSheet = second.styleSheet)
      (children : List.Forall₂ ShownAlike first.children second.children)
      (actions : List.Forall₂ Action.ShownAlike first.actions second.actions) :
      ShownAlike first second

/-- Whether two forms are the same but for empty contents and pixels of icons. -/
@[mk_iff] structure Form.ShownAlike (first second : Form) : Prop where
  title : first.title = second.title
  tag : first.tag = second.tag
  background : first.background = second.background
  menuBar : first.menuBar = second.menuBar
  font : first.font = second.font
  geometry : first.geometry = second.geometry
  widgets : List.Forall₂ WidgetNode.ShownAlike first.widgets second.widgets
  toolbar : Option.Rel WidgetNode.ShownAlike first.toolbar second.toolbar

/-! ## Members that may be missing -/

namespace Outline

/-- The members that have a value. -/
def present (members : List (String × Option Outline)) : List (String × Outline) :=
  members.filterMap fun member => member.2.map (member.1, ·)

theorem fst_mem_of_mem_present {members : List (String × Option Outline)} {name : String}
    {value : Outline} (among : (name, value) ∈ present members) :
    name ∈ members.map Prod.fst := by
  obtain ⟨member, isMember, found⟩ := List.mem_filterMap.mp among
  obtain ⟨_, -, same⟩ := Option.map_eq_some_iff.mp found
  cases same
  exact List.mem_map_of_mem isMember

/-- Which values are missing can be told from the names of the others. -/
theorem present_injective {members others : List (String × Option Outline)}
    (names : members.map Prod.fst = others.map Prod.fst) (distinct : (members.map Prod.fst).Nodup)
    (same : present members = present others) : members = others := by
  induction members generalizing others with
  | nil => exact (List.map_eq_nil_iff.mp names.symm).symm
  | cons member members ih =>
    obtain ⟨name, value⟩ := member
    cases others with
    | nil => cases names
    | cons other others =>
      obtain ⟨otherName, otherValue⟩ := other
      obtain ⟨rfl, restNames⟩ := List.cons.inj names
      obtain ⟨absent, restDistinct⟩ := List.nodup_cons.mp distinct
      cases value with
      | none =>
        cases otherValue with
        | none => rw [ih restNames restDistinct same]
        | some other =>
          have among : (name, other) ∈ present members := by
            rw [show present members = (name, other) :: present others from same]
            exact List.mem_cons_self
          exact (absent (fst_mem_of_mem_present among)).elim
      | some value =>
        cases otherValue with
        | none =>
          have among : (name, value) ∈ present others := by
            rw [show present others = (name, value) :: present members from same.symm]
            exact List.mem_cons_self
          exact (absent (restNames ▸ fst_mem_of_mem_present among)).elim
        | some other =>
          obtain ⟨first, rest⟩ := List.cons.inj same
          cases first
          rw [ih restNames restDistinct rest]

end Outline

/-! ## Widgets -/

theorem WidgetKind.ofLabel?_label (kind : WidgetKind) : ofLabel? kind.label = some kind := by
  cases kind <;> decide

theorem WidgetKind.label_injective : Function.Injective label := by
  intro first second same
  have found := congrArg ofLabel? same
  rw [ofLabel?_label, ofLabel?_label] at found
  exact Option.some.inj found

theorem Rectangle.outline_injective : Function.Injective outline := by
  rintro ⟨x, y, width, height⟩ ⟨otherX, otherY, otherWidth, otherHeight⟩ same
  simp only [outline, Outline.fields.injEq, List.cons.injEq, Prod.mk.injEq, Outline.whole.injEq,
    Int32.toInt_inj, true_and, and_true] at same
  obtain ⟨rfl, rfl, rfl, rfl⟩ := same
  rfl

theorem Content.outline_injective : Function.Injective outline := by
  intro first second same
  cases first with
  | none => cases second <;> first | rfl | cases same
  | single text =>
    cases second with
    | single other =>
      cases same
      rfl
    | _ => cases same
  | entries texts =>
    cases second with
    | entries others =>
      have each := Outline.list.inj same
      rw [List.map_inj_right fun _ _ same => Outline.text.inj same] at each
      rw [each]
    | _ => cases same

theorem Action.outline_eq_iff {first second : Action} :
    first.outline = second.outline ↔ first.ShownAlike second := by
  simp only [outline, Outline.fields.injEq, Outline.list.injEq, Outline.text.injEq,
    Outline.whole.injEq, List.cons.injEq, Prod.mk.injEq, Int.natCast_inj, shownAlike_iff, true_and,
    and_true]

theorem Action.map_outline_eq_iff {actions others : List Action} :
    actions.map outline = others.map outline ↔ List.Forall₂ ShownAlike actions others := by
  rw [← List.forall₂_eq_eq_eq, List.forall₂_map_left_iff, List.forall₂_map_right_iff]
  simp only [outline_eq_iff]

/-- The value of a member that is a list, which is left out if nothing is in it. -/
def Outline.nonempty? (items : List Outline) : Option Outline :=
  if items.isEmpty then none else some (.list items)

theorem Outline.nonempty?_injective : Function.Injective nonempty? := by
  intro items others same
  cases items with
  | nil =>
    cases others with
    | nil => rfl
    | cons => cases same
  | cons =>
    cases others with
    | nil => cases same
    | cons => exact Outline.list.inj (Option.some.inj same)

/-- The value of a member that is a text, which is left out if it is empty. -/
def Content.outline? (content : Content) : Option Outline :=
  if content.isEmpty then Option.none else some content.outline

theorem Content.outline?_eq_iff {first second : Content} :
    first.outline? = second.outline? ↔ first.ShownAlike second := by
  constructor
  · intro same
    rw [outline?, outline?] at same
    cases firstEmpty : first.isEmpty <;> cases secondEmpty : second.isEmpty <;>
      rw [firstEmpty, secondEmpty] at same
    · exact .inl (outline_injective (Option.some.inj same))
    · cases same
    · cases same
    · exact .inr ⟨firstEmpty, secondEmpty⟩
  · rintro (rfl | ⟨firstEmpty, secondEmpty⟩)
    · rfl
    · rw [outline?, outline?, firstEmpty, secondEmpty]
      rfl

namespace WidgetNode

/-- The members of a widget's outline. -/
def members (node : WidgetNode) : List (String × Option Outline) :=
  [("kind", some (.text node.kind.label)), ("tag", some (.text node.tag)),
    ("text", node.text.outline?), ("geometry", some node.geometry.outline),
    ("style_sheet", node.styleSheet.map .text),
    ("children", Outline.nonempty? (outlines node.children)),
    ("actions", Outline.nonempty? (node.actions.map Action.outline))]

theorem outline_eq (node : WidgetNode) : node.outline = .fields (Outline.present node.members) := by
  obtain ⟨kind, tag, text, geometry, styleSheet, children, actions⟩ := node
  rw [WidgetNode.outline.eq_def, members, Content.outline?]
  dsimp only
  cases text.isEmpty <;> cases styleSheet <;> cases children <;> cases actions <;> rfl

theorem map_fst_members (node : WidgetNode) :
    node.members.map Prod.fst =
      ["kind", "tag", "text", "geometry", "style_sheet", "children", "actions"] := rfl

/-- Two widgets have the same outline if and only if they agree member by member. -/
theorem outline_eq_iff_members {first second : WidgetNode} :
    first.outline = second.outline ↔ first.members = second.members := by
  rw [outline_eq, outline_eq, Outline.fields.injEq]
  refine ⟨Outline.present_injective rfl ?_, congrArg Outline.present⟩
  rw [map_fst_members]
  decide

/-- Two widgets agree member by member if and only if they are alike, if this is so of the widgets
inside them. -/
theorem members_eq_iff {first second : WidgetNode}
    (inside : outlines first.children = outlines second.children ↔
      List.Forall₂ ShownAlike first.children second.children) :
    first.members = second.members ↔ ShownAlike first second := by
  have rule : Function.Injective Outline.text := fun _ _ => Outline.text.inj
  simp only [members, List.cons.injEq, Prod.mk.injEq, Option.some.injEq, Outline.text.injEq,
    WidgetKind.label_injective.eq_iff, Content.outline?_eq_iff,
    Rectangle.outline_injective.eq_iff, (Option.map_injective rule).eq_iff,
    Outline.nonempty?_injective.eq_iff, inside, Action.map_outline_eq_iff, shownAlike_iff first,
    true_and, and_true]

mutual

/-- Widgets have the same outline if and only if they are alike. -/
theorem outline_eq_iff : ∀ first second : WidgetNode,
    first.outline = second.outline ↔ ShownAlike first second
  | ⟨kind, tag, text, geometry, styleSheet, children, actions⟩, second => by
    rw [outline_eq_iff_members]
    exact members_eq_iff (outlines_eq_iff children second.children)

/-- Lists of widgets have the same outlines if and only if they are alike, one by one. -/
theorem outlines_eq_iff : ∀ nodes others : List WidgetNode,
    outlines nodes = outlines others ↔ List.Forall₂ ShownAlike nodes others
  | [], [] => iff_of_true rfl .nil
  | [], other :: others => iff_of_false (fun same => nomatch same) (fun alike => nomatch alike)
  | node :: rest, [] => iff_of_false (fun same => nomatch same) (fun alike => nomatch alike)
  | node :: rest, other :: others => by
    rw [outlines, outlines, List.cons.injEq, List.forall₂_cons, outline_eq_iff node other,
      outlines_eq_iff rest others]

end

/-- Both are missing, or both are there and alike. -/
theorem map_outline_eq_iff {first second : Option WidgetNode} :
    first.map outline = second.map outline ↔ Option.Rel ShownAlike first second := by
  cases first with
  | none =>
    cases second with
    | none => exact iff_of_true rfl .none
    | some other => exact iff_of_false (fun same => nomatch same) (fun related => nomatch related)
  | some node =>
    cases second with
    | none => exact iff_of_false (fun same => nomatch same) (fun related => nomatch related)
    | some other =>
      rw [Option.map_some, Option.map_some, Option.some.injEq, outline_eq_iff]
      refine ⟨.some, fun related => ?_⟩
      cases related with
      | some alike => exact alike

theorem outline_ne_null (node : WidgetNode) : node.outline ≠ .null := by
  rw [outline_eq]
  exact Outline.noConfusion

end WidgetNode

/-! ## Forms -/

theorem Color.outline_injective : Function.Injective outline := by
  rintro ⟨red, green, blue⟩ ⟨otherRed, otherGreen, otherBlue⟩ same
  simp only [outline, Outline.fields.injEq, List.cons.injEq, Prod.mk.injEq, Outline.whole.injEq,
    Int.natCast_inj, UInt8.toNat_inj, true_and, and_true] at same
  obtain ⟨rfl, rfl, rfl⟩ := same
  rfl

theorem Color.outline_ne_null (color : Color) : color.outline ≠ .null :=
  Outline.noConfusion

theorem FontSpec.outline_injective : Function.Injective outline := by
  rintro ⟨family, pointSize⟩ ⟨otherFamily, otherPointSize⟩ same
  simp only [outline, Outline.fields.injEq, List.cons.injEq, Prod.mk.injEq, Outline.text.injEq,
    Outline.whole.injEq, Int.natCast_inj, UInt32.toNat_inj, true_and, and_true] at same
  obtain ⟨rfl, rfl⟩ := same
  rfl

/-- A part that is there has an outline of its own, unlike one that is missing. -/
theorem Outline.getD_null_eq_iff {α : Type} {outline : α → Outline}
    (notNull : ∀ part, outline part ≠ .null) {first second : Option α} :
    (first.map outline).getD .null = (second.map outline).getD .null ↔
      first.map outline = second.map outline := by
  cases first with
  | none =>
    cases second with
    | none => exact iff_of_true rfl rfl
    | some other => exact iff_of_false (notNull other).symm (fun same => nomatch same)
  | some part =>
    cases second with
    | none => exact iff_of_false (notNull part) (fun same => nomatch same)
    | some other => exact ⟨congrArg some, Option.some.inj⟩

namespace Form

theorem outline_eq_iff {first second : Form} :
    first.outline = second.outline ↔ first.ShownAlike second := by
  simp only [outline, Outline.fields.injEq, List.cons.injEq, Prod.mk.injEq, Outline.text.injEq,
    Outline.truth.injEq, Outline.list.injEq, Outline.getD_null_eq_iff Color.outline_ne_null,
    (Option.map_injective Color.outline_injective).eq_iff, FontSpec.outline_injective.eq_iff,
    Rectangle.outline_injective.eq_iff, Outline.getD_null_eq_iff WidgetNode.outline_ne_null,
    WidgetNode.map_outline_eq_iff, WidgetNode.outlines_eq_iff, shownAlike_iff, true_and, and_true]

/-- The printed outline of a form loses nothing but the pixels of icons and how an empty text is
kept: forms have the same text if and only if they are alike. -/
theorem render_outline_eq_iff (first second : Form) :
    first.outline.render = second.outline.render ↔ first.ShownAlike second := by
  rw [← outline_eq_iff]
  exact ⟨fun same => Outline.render_injective same, congrArg Outline.render⟩

end Form

end FigureForm
