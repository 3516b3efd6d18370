/-
# Segments of paths

Paths are put together as texts and read as lists of segments.  A separator between two texts
separates their pieces (`split_append`), pieces without separators read back (`split_join`), and what
a text ends with its last piece ends with, so that the ending of a file name is the ending of the
whole path (`suffix_getLast_split`).  From these follow the segments of a path that continues
another one, and of the path in front of a last name.
-/

import FigureForm.Storage.Path
import Mathlib.Data.List.Basic

namespace FigureForm

namespace Pieces

variable {separator : Char}

theorem split_cons_of_ne {c : Char} (differs : c ≠ separator) (text : List Char) :
    ∃ piece pieces, split separator text = piece :: pieces ∧
      split separator (c :: text) = (c :: piece) :: pieces := by
  cases cut : split separator text with
  | nil => exact absurd cut (split_ne_nil separator text)
  | cons piece pieces =>
    refine ⟨piece, pieces, rfl, ?_⟩
    rw [split, if_neg differs, cut]

theorem split_append (first second : List Char) :
    split separator (first ++ separator :: second) =
      split separator first ++ split separator second := by
  induction first with
  | nil => simp [split]
  | cons c rest ih =>
    by_cases same : c = separator
    · rw [List.cons_append, split, if_pos same, ih, split, if_pos same, List.cons_append]
    · obtain ⟨piece, pieces, cut, whole⟩ := split_cons_of_ne same rest
      rw [List.cons_append, split, if_neg same, ih, cut, whole]
      rfl

theorem split_of_not_mem {piece : List Char} (without : separator ∉ piece) :
    split separator piece = [piece] := by
  induction piece with
  | nil => rfl
  | cons c rest ih =>
    rw [List.mem_cons, not_or] at without
    rw [split, if_neg (Ne.symm without.1), ih without.2]

/-- Pieces without separators read back. -/
theorem split_join {pieces : List (List Char)} (some : pieces ≠ [])
    (without : ∀ piece ∈ pieces, separator ∉ piece) :
    split separator (join separator pieces) = pieces := by
  induction pieces with
  | nil => exact absurd rfl some
  | cons piece rest ih =>
    have own := split_of_not_mem (without piece List.mem_cons_self)
    cases rest with
    | nil => rw [join, own]
    | cons next more =>
      have later := ih (List.cons_ne_nil _ _) fun other among =>
        without other (List.mem_cons_of_mem _ among)
      rw [join, split_append, own, later, List.singleton_append]

/-- What a text ends with and what contains no separator, its last piece ends with. -/
theorem suffix_getLast_split {ending text : List Char} (without : separator ∉ ending)
    (ends : ending <:+ text) :
    ending <:+ (split separator text).getLast (split_ne_nil separator text) := by
  obtain ⟨front, rfl⟩ := ends
  induction front with
  | nil =>
    simp only [List.nil_append, split_of_not_mem without, List.getLast_singleton]
    exact List.suffix_refl _
  | cons c rest ih =>
    by_cases same : c = separator
    · simp only [List.cons_append, split, if_pos same]
      rw [List.getLast_cons (split_ne_nil separator _)]
      exact ih
    · obtain ⟨piece, pieces, cut, whole⟩ := split_cons_of_ne same (rest ++ ending)
      simp only [cut] at ih
      simp only [List.cons_append, whole]
      cases pieces with
      | nil =>
        rw [List.getLast_singleton] at ih ⊢
        exact ih.trans (List.suffix_cons c piece)
      | cons next more =>
        rw [List.getLast_cons (List.cons_ne_nil _ _)] at ih ⊢
        exact ih

end Pieces

namespace Path

theorem segments_ne_nil (path : String) : segments path ≠ [] :=
  Pieces.split_ne_nil '/' path.toList

theorem segments_ofSegments {pieces : List (List Char)} (some : pieces ≠ [])
    (without : ∀ piece ∈ pieces, '/' ∉ piece) : segments (ofSegments pieces) = pieces := by
  rw [segments, ofSegments, String.toList_ofList, Pieces.split_join some without]

/-- A path is absolute exactly when its first segment is empty and another one follows. -/
theorem isAbsolute_iff {path : String} :
    isAbsolute path = true ↔ ∃ rest, rest ≠ [] ∧ segments path = [] :: rest := by
  unfold isAbsolute segments
  cases path.toList with
  | nil => simp [Pieces.split]
  | cons c rest =>
    by_cases slash : c = '/'
    · subst slash
      simp [Pieces.split, Pieces.split_ne_nil]
    · obtain ⟨piece, pieces, -, whole⟩ := Pieces.split_cons_of_ne slash rest
      simp [whole, slash]

/-- A relative path behind a base starts where the base does. -/
theorem isAbsolute_join (base : String) {path : String} (relative : isAbsolute path = false) :
    isAbsolute (join base path) = isAbsolute base := by
  rw [join, relative, if_neg Bool.false_ne_true]
  by_cases empty : base.isEmpty = true
  · obtain rfl := String.isEmpty_iff.mp empty
    rw [if_pos empty, relative]
    rfl
  · have start (rest : String) : isAbsolute (base ++ rest) = isAbsolute base := by
      have some : base.toList ≠ [] := fun none => empty (by simpa using none)
      rw [isAbsolute, isAbsolute, String.toList_append, List.head?_append_of_ne_nil _ some]
    rw [if_neg empty]
    split
    · exact start path
    · rw [String.append_assoc, start]

/-- The segments of a relative path follow those of the base, whose last one is dropped when it is
empty. -/
theorem segments_join (base : String) {path : String} (relative : isAbsolute path = false) :
    ∃ front, segments (join base path) = front ++ segments path ∧
      (segments base = front ∨ segments base = front ++ [[]]) := by
  rw [join, relative, if_neg Bool.false_ne_true]
  split
  next empty =>
    obtain rfl := String.isEmpty_iff.mp empty
    exact ⟨[], rfl, .inr rfl⟩
  · split
    next slash =>
      obtain ⟨front, whole⟩ := List.getLast?_eq_some_iff.mp slash
      refine ⟨Pieces.split '/' front, ?_, .inr ?_⟩
      · rw [segments, String.toList_append, whole, List.append_assoc, List.singleton_append,
          Pieces.split_append, segments]
      · rw [segments, whole, Pieces.split_append]
        rfl
    next =>
      refine ⟨segments base, ?_, .inl rfl⟩
      rw [segments, String.toList_append, String.toList_append, List.append_assoc]
      exact Pieces.split_append base.toList path.toList

end Path

end FigureForm
