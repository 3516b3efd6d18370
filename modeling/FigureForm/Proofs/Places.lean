/-
# The order of places

Places below one starting text are read as the lists of their indices.  `Within` is the order of
enclosure, `Before` is the order of the document: a component stands before everything inside it and
before what follows it among its siblings.  The text of a place says as much as its indices
(`text_injective`), so two remarks at different places also read differently.
-/

import FigureForm.Figure.Place
import FigureForm.Proofs.Numerals

namespace FigureForm.Place

/-- Whether a place is another one or lies below it. -/
def Within (outer inner : Place) : Prop :=
  inner.start = outer.start ∧ outer.indices <+: inner.indices

/-- Whether a place comes before another in the order of the document. -/
def Before (first second : Place) : Prop :=
  first.start = second.start ∧ first.indices < second.indices

/-- The place of the component around a component. -/
def parent? (place : Place) : Option Place :=
  if place.indices = [] then none else some { place with indices := place.indices.dropLast }

theorem within_refl (place : Place) : place.Within place :=
  ⟨rfl, List.prefix_refl _⟩

theorem Within.trans {first second third : Place} (outer : first.Within second)
    (inner : second.Within third) : first.Within third :=
  ⟨inner.1.trans outer.1, outer.2.trans inner.2⟩

theorem within_child (place : Place) (index : Nat) : place.Within (place.child index) :=
  ⟨rfl, List.prefix_append _ _⟩

theorem parent?_child (place : Place) (index : Nat) : (place.child index).parent? = some place := by
  rw [parent?, child, if_neg (by simp), List.dropLast_concat]

/-- The places with a parent are the children of that parent. -/
theorem parent?_eq_some_iff {place parent : Place} :
    place.parent? = some parent ↔ ∃ index, place = parent.child index := by
  constructor
  · intro isParent
    rw [parent?] at isParent
    by_cases top : place.indices = []
    · rw [if_pos top] at isParent
      cases isParent
    · rw [if_neg top] at isParent
      cases isParent
      refine ⟨place.indices.getLast top, ?_⟩
      rw [child, List.dropLast_concat_getLast]
  · rintro ⟨index, rfl⟩
    exact parent?_child parent index

/-- Of the children of a place only the one with the same index lies within another. -/
theorem eq_of_within_child {parent : Place} {first second : Nat}
    (within : (parent.child first).Within (parent.child second)) : first = second := by
  obtain ⟨-, rest, same⟩ := within
  rw [child, List.append_assoc] at same
  injection List.append_cancel_left same

/-- A component stands before everything inside it. -/
theorem before_of_within_child {place inner : Place} {index : Nat}
    (within : (place.child index).Within inner) : place.Before inner := by
  obtain ⟨start, rest, same⟩ := within
  refine ⟨start.symm, ?_⟩
  have inside : place.indices ++ [] < place.indices ++ ([index] ++ rest) :=
    List.append_left_lt (List.nil_lt_cons _ _)
  rw [List.append_nil, ← List.append_assoc] at inside
  exact same ▸ inside

/-- A component and everything inside it stand before its later siblings and everything inside
them. -/
theorem before_of_within_children {parent first second : Place} {earlier later : Nat}
    (inOrder : earlier < later) (inFirst : (parent.child earlier).Within first)
    (inSecond : (parent.child later).Within second) : first.Before second := by
  obtain ⟨firstStart, firstRest, firstIndices⟩ := inFirst
  obtain ⟨secondStart, secondRest, secondIndices⟩ := inSecond
  refine ⟨firstStart.trans secondStart.symm, ?_⟩
  have apart : parent.indices ++ earlier :: firstRest < parent.indices ++ later :: secondRest :=
    List.append_left_lt (List.cons_lt_cons_iff.mpr (.inl inOrder))
  rw [← firstIndices, ← secondIndices]
  unfold child
  rw [List.append_assoc, List.append_assoc]
  exact apart

theorem Before.ne {first second : Place} (before : first.Before second) : first ≠ second := by
  rintro rfl
  exact List.lt_irrefl _ before.2

/-! ## Texts of places -/

/-- The digits of an index end at the bracket behind them. -/
theorem digits_bracket_injective {first second : Nat} {rest other : List Char}
    (same : Nat.toDigits 10 first ++ ']' :: rest = Nat.toDigits 10 second ++ ']' :: other) :
    first = second ∧ rest = other := by
  obtain ⟨numbers, behind⟩ := Numerals.toDigits_append_injective (Numerals.ends_cons rfl rest)
    (Numerals.ends_cons rfl other) same
  exact ⟨numbers, (List.cons.inj behind).2⟩

theorem toList_indexText (index : Nat) :
    (indexText index).toList = '[' :: (Nat.toDigits 10 index ++ [']']) := by
  rw [indexText, String.toList_append, String.toList_append, Nat.toString_eq_repr, Nat.toList_repr]
  rfl

theorem deeperText_injective {first second : List Nat}
    (same : (deeperText first).toList = (deeperText second).toList) : first = second := by
  induction first generalizing second with
  | nil =>
    cases second with
    | nil => rfl
    | cons index rest =>
      unfold deeperText at same
      rw [String.toList_append, String.toList_append] at same
      cases same
  | cons index rest ih =>
    cases second with
    | nil =>
      unfold deeperText at same
      rw [String.toList_append, String.toList_append] at same
      cases same
    | cons other others =>
      unfold deeperText at same
      simp only [String.toList_append, List.append_assoc, toList_indexText, List.cons_append,
        List.nil_append] at same
      have bracket := List.append_cancel_left same
      injection bracket with _ digits
      obtain ⟨rfl, deeper⟩ := digits_bracket_injective digits
      rw [ih deeper]

/-- The text of a place below a starting text determines its indices. -/
theorem text_injective {start : String} {first second : List Nat}
    (same : (Place.mk start first).text = (Place.mk start second).text) : first = second := by
  have spelled := congrArg String.toList same
  unfold text at spelled
  cases first with
  | nil =>
    cases second with
    | nil => rfl
    | cons index rest =>
      simp only [String.toList_append, toList_indexText, List.append_assoc] at spelled
      have nothing := List.self_eq_append_right.mp spelled
      cases nothing
  | cons index rest =>
    cases second with
    | nil =>
      simp only [String.toList_append, toList_indexText, List.append_assoc] at spelled
      have nothing := List.append_right_eq_self.mp spelled
      cases nothing
    | cons other others =>
      simp only [String.toList_append, toList_indexText, List.append_assoc, List.cons_append,
        List.nil_append] at spelled
      have bracket := List.append_cancel_left spelled
      injection bracket with _ digits
      obtain ⟨rfl, deeper⟩ := digits_bracket_injective digits
      rw [deeperText_injective deeper]

end FigureForm.Place
