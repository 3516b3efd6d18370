/-
# Containment as inclusion of pixels

A rectangle covers the points from its corner on and before its far edges.  Containment is inclusion
of these sets of points, as long as the edges that are compared are coordinates
(`contains_eq_ok_true_iff_pixels`), so that it orders the rectangles that cover anything.  From
inclusion to the edges the first and the last pixel of the inner rectangle are enough.

What an area contains is seen from the area's corner between zero and the area's extents, and moving
it back by the corner undoes the change of origin.  Nothing is said about rectangles that only
overlap.
-/

import FigureForm.Proofs.EnclosureOverflow
import Mathlib.Data.Set.Basic

namespace FigureForm.Rectangle

variable {r outer inner first second third : Rectangle}

/-! ## Pixels -/

/-- The right and the lower edge are coordinates. -/
structure HasEdges (r : Rectangle) : Prop where
  right : Coordinate.InRange (r.x.toInt + r.width.toInt)
  bottom : Coordinate.InRange (r.y.toInt + r.height.toInt)

/-- The points that a rectangle covers. -/
def pixels (r : Rectangle) : Set (Int × Int) :=
  {point | r.x.toInt ≤ point.1 ∧ point.1 < r.x.toInt + r.width.toInt ∧
    r.y.toInt ≤ point.2 ∧ point.2 < r.y.toInt + r.height.toInt}

theorem first_mem_pixels (width : 0 < r.width.toInt) (height : 0 < r.height.toInt) :
    (r.x.toInt, r.y.toInt) ∈ r.pixels := by
  refine ⟨le_refl _, ?_, le_refl _, ?_⟩
  · show r.x.toInt < _
    omega
  · show r.y.toInt < _
    omega

theorem last_mem_pixels (width : 0 < r.width.toInt) (height : 0 < r.height.toInt) :
    (r.x.toInt + r.width.toInt - 1, r.y.toInt + r.height.toInt - 1) ∈ r.pixels := by
  refine ⟨?_, Int.sub_one_lt_of_le (le_refl _), ?_, Int.sub_one_lt_of_le (le_refl _)⟩
  · show r.x.toInt ≤ _
    omega
  · show r.y.toInt ≤ _
    omega

/-- Only a rectangle without area covers nothing. -/
theorem pixels_nonempty_iff : r.pixels.Nonempty ↔ 0 < r.width.toInt ∧ 0 < r.height.toInt := by
  constructor
  · rintro ⟨point, left, right, top, bottom⟩
    omega
  · rintro ⟨width, height⟩
    exact ⟨_, first_mem_pixels width height⟩

/-- Pixels lie among pixels exactly when the edges are in order.  The first and the last pixel are
the witnesses. -/
theorem pixels_subset_iff (covers : inner.pixels.Nonempty) :
    inner.pixels ⊆ outer.pixels ↔
      outer.x.toInt ≤ inner.x.toInt ∧ outer.y.toInt ≤ inner.y.toInt ∧
        inner.x.toInt + inner.width.toInt ≤ outer.x.toInt + outer.width.toInt ∧
        inner.y.toInt + inner.height.toInt ≤ outer.y.toInt + outer.height.toInt := by
  obtain ⟨width, height⟩ := pixels_nonempty_iff.mp covers
  constructor
  · intro included
    obtain ⟨left, -, top, -⟩ := included (first_mem_pixels width height)
    obtain ⟨-, right, -, bottom⟩ := included (last_mem_pixels width height)
    have left : outer.x.toInt ≤ inner.x.toInt := left
    have top : outer.y.toInt ≤ inner.y.toInt := top
    have right : inner.x.toInt + inner.width.toInt - 1 < outer.x.toInt + outer.width.toInt := right
    have bottom :
        inner.y.toInt + inner.height.toInt - 1 < outer.y.toInt + outer.height.toInt := bottom
    omega
  · rintro ⟨left, top, right, bottom⟩ point ⟨fromLeft, toRight, fromTop, toBottom⟩
    exact ⟨by omega, by omega, by omega, by omega⟩

/-- Rectangles that cover the same pixels, and any at all, are the same. -/
theorem eq_of_pixels_eq (covers : first.pixels.Nonempty) (same : first.pixels = second.pixels) :
    first = second := by
  obtain ⟨left, top, right, bottom⟩ := (pixels_subset_iff covers).mp same.subset
  obtain ⟨left', top', right', bottom'⟩ := (pixels_subset_iff (same ▸ covers)).mp same.superset
  obtain ⟨x, y, width, height⟩ := first
  obtain ⟨x', y', width', height'⟩ := second
  simp only at left top right bottom left' top' right' bottom'
  have sameX : x = x' := Int32.toInt_inj.mp (by omega)
  have sameY : y = y' := Int32.toInt_inj.mp (by omega)
  have sameWidth : width = width' := Int32.toInt_inj.mp (by omega)
  have sameHeight : height = height' := Int32.toInt_inj.mp (by omega)
  rw [sameX, sameY, sameWidth, sameHeight]

/-! ## Containment -/

/-- A rectangle contains another exactly when its edges are coordinates and the other covers
something, all of it inside. -/
theorem contains_eq_ok_true_iff_pixels :
    outer.contains inner = .ok true ↔
      outer.HasEdges ∧ inner.pixels.Nonempty ∧ inner.pixels ⊆ outer.pixels := by
  rw [contains_eq_ok_true_iff]
  constructor
  · intro enclosed
    have covers : inner.pixels.Nonempty :=
      pixels_nonempty_iff.mpr ⟨enclosed.innerWidth, enclosed.innerHeight⟩
    exact ⟨⟨enclosed.rightInRange, enclosed.bottomInRange⟩, covers,
      (pixels_subset_iff covers).mpr
        ⟨enclosed.left, enclosed.top, enclosed.right, enclosed.bottom⟩⟩
  · rintro ⟨edges, covers, included⟩
    obtain ⟨innerWidth, innerHeight⟩ := pixels_nonempty_iff.mp covers
    obtain ⟨outerWidth, outerHeight⟩ := pixels_nonempty_iff.mp (covers.mono included)
    obtain ⟨left, top, right, bottom⟩ := (pixels_subset_iff covers).mp included
    exact {
      outerWidth, outerHeight, innerWidth, innerHeight, left, top, right, bottom
      rightInRange := edges.right
      bottomInRange := edges.bottom }

/-- The test has an answer as soon as all four far edges are coordinates. -/
theorem exists_contains_eq_ok (outerEdges : outer.HasEdges) (innerEdges : inner.HasEdges) :
    ∃ answer, outer.contains inner = .ok answer := by
  apply exists_contains_eq_ok_iff.mpr
  intro overflows
  obtain lacking | lacking | ⟨-, lacking | lacking⟩ := overflows.edge
  · exact lacking innerEdges.right
  · exact lacking outerEdges.right
  · exact lacking innerEdges.bottom
  · exact lacking outerEdges.bottom

/-- Containment is inclusion of pixels.  Between rectangles whose edges are coordinates the test has
an answer, and the answer is "yes" exactly when the inner one covers something and all of it inside
the outer one.  So every such rectangle that covers something contains itself, what it contains it
contains with everything inside, and no two contain each other. -/
theorem contains_is_inclusion :
    (∀ outer inner : Rectangle, outer.HasEdges → inner.HasEdges →
      ∃ answer, outer.contains inner = .ok answer ∧
        (answer = true ↔ inner.pixels.Nonempty ∧ inner.pixels ⊆ outer.pixels)) ∧
    (∀ r : Rectangle, r.HasEdges → r.pixels.Nonempty → r.contains r = .ok true) ∧
    (∀ first second third : Rectangle, first.contains second = .ok true →
      second.contains third = .ok true → first.contains third = .ok true) ∧
    ∀ first second : Rectangle, first.contains second = .ok true →
      second.contains first = .ok true → first = second := by
  refine ⟨fun outer inner outerEdges innerEdges => ?_, fun r edges covers => ?_,
    fun first second third outside inside => ?_, fun first second one other => ?_⟩
  · obtain ⟨answer, answered⟩ := exists_contains_eq_ok outerEdges innerEdges
    have meaning : outer.contains inner = .ok true ↔
        outer.HasEdges ∧ inner.pixels.Nonempty ∧ inner.pixels ⊆ outer.pixels :=
      contains_eq_ok_true_iff_pixels
    rw [answered, Except.ok.injEq] at meaning
    exact ⟨answer, answered, meaning.trans (and_iff_right outerEdges)⟩
  · exact contains_eq_ok_true_iff_pixels.mpr ⟨edges, covers, subset_refl _⟩
  · obtain ⟨edges, -, around⟩ := contains_eq_ok_true_iff_pixels.mp outside
    obtain ⟨-, covers, included⟩ := contains_eq_ok_true_iff_pixels.mp inside
    exact contains_eq_ok_true_iff_pixels.mpr ⟨edges, covers, included.trans around⟩
  · obtain ⟨-, -, secondIncluded⟩ := contains_eq_ok_true_iff_pixels.mp one
    obtain ⟨-, covers, firstIncluded⟩ := contains_eq_ok_true_iff_pixels.mp other
    exact eq_of_pixels_eq covers (firstIncluded.antisymm secondIncluded)

/-- A rectangle as wide as there are coordinates to the left of zero. -/
def leftHalf : Rectangle :=
  ⟨-2147483647, -5, 2147483647, 10⟩

/-- A rectangle in its far corner, which it touches from inside. -/
def touching : Rectangle :=
  ⟨-1, 4, 1, 1⟩

/-- The rectangle in the far corner of the large one lies inside it, and with it everything that it
contains itself. -/
theorem contains_is_inclusion_touching :
    leftHalf.HasEdges ∧ touching.HasEdges ∧ leftHalf.contains touching = .ok true ∧
      (touching.pixels.Nonempty ∧ touching.pixels ⊆ leftHalf.pixels) ∧
      touching.contains touching = .ok true ∧ touching = ⟨-1, 4, 1, 1⟩ := by
  have outerEdges : leftHalf.HasEdges := ⟨by decide, by decide⟩
  have innerEdges : touching.HasEdges := ⟨by decide, by decide⟩
  have contained : leftHalf.contains touching = .ok true := by decide
  obtain ⟨inclusion, reflexive, transitive, antisymmetric⟩ := contains_is_inclusion
  obtain ⟨answer, answered, meaning⟩ := inclusion leftHalf touching outerEdges innerEdges
  cases contained.symm.trans answered
  have included := meaning.mp rfl
  have itself := reflexive touching innerEdges included.1
  exact ⟨outerEdges, innerEdges, transitive leftHalf touching touching contained itself, included,
    itself, antisymmetric touching ⟨-1, 4, 1, 1⟩ (by decide) (by decide)⟩

/-! ## The local area -/

/-- A rectangle is moved by adding the offsets to its corner, and there is an answer as soon as the
sums are coordinates. -/
theorem moved_eq_ok_iff {moved : Rectangle} {dx dy : Coordinate} :
    r.moved dx dy = .ok moved ↔
      moved.x.toInt = r.x.toInt + dx.toInt ∧ moved.y.toInt = r.y.toInt + dy.toInt ∧
        moved.width = r.width ∧ moved.height = r.height := by
  unfold Rectangle.moved
  rw [Coordinate.bind_add_eq_ok_iff]
  constructor
  · rintro ⟨x, xValue, rest⟩
    obtain ⟨y, yValue, same⟩ := Coordinate.bind_add_eq_ok_iff.mp rest
    cases same
    exact ⟨xValue, yValue, rfl, rfl⟩
  · rintro ⟨xValue, yValue, width, height⟩
    refine ⟨moved.x, xValue, Coordinate.bind_add_eq_ok_iff.mpr ⟨moved.y, yValue, ?_⟩⟩
    cases moved
    cases width
    cases height
    rfl

/-- What an area contains lies inside its local area and can be moved back.  Unless the corner of the
area is at the least coordinate, a contained rectangle can be seen from that corner: it keeps its
size, begins at zero or later and ends within the extents of the area, and moving it by the corner
gives the rectangle again. -/
theorem relativeTo_of_contained (contained : outer.contains inner = .ok true)
    (x : outer.x ≠ Int32.minValue) (y : outer.y ≠ Int32.minValue) :
    ∃ seen, inner.relativeTo outer.origin = .ok seen ∧
      seen.width = inner.width ∧ seen.height = inner.height ∧
      0 ≤ seen.x.toInt ∧ 0 ≤ seen.y.toInt ∧
      seen.x.toInt + inner.width.toInt ≤ outer.width.toInt ∧
      seen.y.toInt + inner.height.toInt ≤ outer.height.toInt ∧
      seen.moved outer.x outer.y = .ok inner := by
  have enclosed := contains_eq_ok_true_iff.mp contained
  obtain ⟨xInRange, yInRange⟩ := enclosed.inRange_sub
  obtain ⟨seenX, xValue⟩ := Coordinate.exists_toInt_eq xInRange
  obtain ⟨seenY, yValue⟩ := Coordinate.exists_toInt_eq yInRange
  obtain ⟨-, -, -, -, left, top, right, bottom, -, -⟩ := enclosed
  refine ⟨⟨seenX, seenY, inner.width, inner.height⟩,
    relativeTo_eq_ok_iff.mpr ⟨x, y, xValue, yValue, rfl, rfl⟩, rfl, rfl, ?_, ?_, ?_, ?_,
    moved_eq_ok_iff.mpr ⟨?_, ?_, rfl, rfl⟩⟩
  · show 0 ≤ seenX.toInt
    omega
  · show 0 ≤ seenY.toInt
    omega
  · show seenX.toInt + _ ≤ _
    omega
  · show seenY.toInt + _ ≤ _
    omega
  · show _ = seenX.toInt + _
    omega
  · show _ = seenY.toInt + _
    omega

/-- The rectangle in the far corner is seen from the other end of the coordinates. -/
theorem relativeTo_of_contained_touching :
    leftHalf.contains touching = .ok true ∧ leftHalf.x ≠ Int32.minValue ∧
      leftHalf.y ≠ Int32.minValue ∧
      touching.relativeTo leftHalf.origin = .ok ⟨2147483646, 9, 1, 1⟩ ∧
      (⟨2147483646, 9, 1, 1⟩ : Rectangle).moved leftHalf.x leftHalf.y = .ok touching := by
  have contained : leftHalf.contains touching = .ok true := by decide
  have x : leftHalf.x ≠ Int32.minValue := by decide
  have y : leftHalf.y ≠ Int32.minValue := by decide
  obtain ⟨seen, isSeen, -, -, -, -, -, -, back⟩ := relativeTo_of_contained contained x y
  have value : touching.relativeTo leftHalf.origin = .ok ⟨2147483646, 9, 1, 1⟩ := by decide
  cases value.symm.trans isSeen
  exact ⟨contained, x, y, value, back⟩

end FigureForm.Rectangle
