/-
# Rectangles in whole numbers

The checked operations on rectangles, said in the whole numbers that their coordinates hold.  A
rectangle contains another exactly when the edges lie in order and those of the outer rectangle are
coordinates; the inner ones then are coordinates as well.  What lies inside an area can be seen from
the area's corner without an overflow, provided that the corner has an opposite.
-/

import FigureForm.Proofs.Outcome
import FigureForm.Rectangle

namespace FigureForm

namespace Coordinate

/-- A checked sum leads to an answer exactly when the whole-number sum is a coordinate that does. -/
theorem bind_add_eq_ok_iff {α : Type} {a b : Coordinate} {next : Coordinate → Except Overflow α}
    {answer : α} :
    (add a b >>= next) = .ok answer ↔
      ∃ sum : Coordinate, sum.toInt = a.toInt + b.toInt ∧ next sum = .ok answer := by
  rw [bind_eq_ok_iff]
  apply exists_congr
  intro sum
  rw [add_eq_ok_iff, eq_comm]

/-- A checked opposite leads to an answer exactly when the whole-number opposite is a coordinate that
does. -/
theorem bind_negate_eq_ok_iff {α : Type} {a : Coordinate} {next : Coordinate → Except Overflow α}
    {answer : α} :
    (negate a >>= next) = .ok answer ↔
      ∃ opposite : Coordinate, opposite.toInt = -a.toInt ∧ next opposite = .ok answer := by
  rw [bind_eq_ok_iff]
  apply exists_congr
  intro opposite
  rw [negate_eq_ok_iff, eq_comm]

/-- A whole number in range is what some coordinate holds. -/
theorem exists_toInt_eq {value : Int} (inRange : InRange value) :
    ∃ a : Coordinate, a.toInt = value :=
  ⟨Int32.ofInt value, toInt_ofInt inRange⟩

/-- The least coordinate has no opposite. -/
theorem ne_minValue_of_toInt_eq_neg {a opposite : Coordinate} (value : opposite.toInt = -a.toInt) :
    a ≠ Int32.minValue := by
  rintro rfl
  have inRange := inRange_toInt opposite
  rw [value, Int32.toInt_minValue] at inRange
  rw [InRange] at inRange
  omega

end Coordinate

namespace Rectangle

/-- A rectangle covers a pixel exactly when both of its extents are positive. -/
theorem isEmpty_eq_false_iff {r : Rectangle} :
    r.isEmpty = false ↔ 0 < r.width.toInt ∧ 0 < r.height.toInt := by
  have zero : (0 : Coordinate).toInt = 0 := by decide
  rw [isEmpty]
  rw [Bool.or_eq_false_iff, decide_eq_false_iff_not, decide_eq_false_iff_not,
    Int32.le_iff_toInt_le, Int32.le_iff_toInt_le, zero]
  omega

/-- The order of edges that containment stands for.  The outer edges have to be coordinates; they
are sums that the code computes. -/
structure Encloses (outer inner : Rectangle) : Prop where
  outerWidth : 0 < outer.width.toInt
  outerHeight : 0 < outer.height.toInt
  innerWidth : 0 < inner.width.toInt
  innerHeight : 0 < inner.height.toInt
  left : outer.x.toInt ≤ inner.x.toInt
  top : outer.y.toInt ≤ inner.y.toInt
  right : inner.x.toInt + inner.width.toInt ≤ outer.x.toInt + outer.width.toInt
  bottom : inner.y.toInt + inner.height.toInt ≤ outer.y.toInt + outer.height.toInt
  rightInRange : Coordinate.InRange (outer.x.toInt + outer.width.toInt)
  bottomInRange : Coordinate.InRange (outer.y.toInt + outer.height.toInt)

/-- A test whose outcome is not "no" needs the edges: both rectangles have an extent and their corners
are in order. -/
theorem edgesNeeded_of_contains_ne {outer inner : Rectangle}
    (undecided : outer.contains inner ≠ .ok false) :
    outer.isEmpty = false ∧ inner.isEmpty = false ∧ outer.x ≤ inner.x ∧ outer.y ≤ inner.y := by
  have shown : (outer.isEmpty || inner.isEmpty) = false := by
    apply Bool.eq_false_iff.mpr
    intro empty
    rw [contains, if_pos empty] at undecided
    exact undecided rfl
  have inOrder : outer.x ≤ inner.x ∧ outer.y ≤ inner.y := by
    apply Decidable.byContradiction
    intro disordered
    rw [contains, shown, if_neg Bool.false_ne_true, if_neg disordered] at undecided
    exact undecided rfl
  rw [Bool.or_eq_false_iff] at shown
  exact ⟨shown.1, shown.2, inOrder⟩

/-- Past the tests that need no edge, containment compares the four edges, each of which has to be a
coordinate as soon as it is looked at. -/
theorem contains_eq_ok_true_iff_edges {outer inner : Rectangle} (outerShown : outer.isEmpty = false)
    (innerShown : inner.isEmpty = false) (left : outer.x ≤ inner.x) (top : outer.y ≤ inner.y) :
    outer.contains inner = .ok true ↔
      ∃ innerRight : Coordinate, innerRight.toInt = inner.x.toInt + inner.width.toInt ∧
      ∃ outerRight : Coordinate, outerRight.toInt = outer.x.toInt + outer.width.toInt ∧
        innerRight ≤ outerRight ∧
      ∃ innerBottom : Coordinate, innerBottom.toInt = inner.y.toInt + inner.height.toInt ∧
      ∃ outerBottom : Coordinate, outerBottom.toInt = outer.y.toInt + outer.height.toInt ∧
        innerBottom ≤ outerBottom := by
  unfold contains Rectangle.right Rectangle.bottom
  rw [outerShown, innerShown, Bool.or_self, if_neg Bool.false_ne_true, if_pos ⟨left, top⟩,
    Coordinate.bind_add_eq_ok_iff]
  apply exists_congr
  intro innerRight
  apply and_congr_right
  intro _
  rw [Coordinate.bind_add_eq_ok_iff]
  apply exists_congr
  intro outerRight
  apply and_congr_right
  intro _
  by_cases inOrder : innerRight ≤ outerRight
  · rw [if_pos inOrder, Coordinate.bind_add_eq_ok_iff]
    simp only [Coordinate.bind_add_eq_ok_iff, inOrder, true_and, pure, Except.pure,
      Except.ok.injEq, decide_eq_true_eq]
  · rw [if_neg inOrder]
    simp [inOrder, pure, Except.pure]

/-- Containment is the order of the edges. -/
theorem contains_eq_ok_true_iff {outer inner : Rectangle} :
    outer.contains inner = .ok true ↔ Encloses outer inner := by
  constructor
  · intro contained
    have undecided : outer.contains inner ≠ .ok false := by
      rw [contained]
      simp
    obtain ⟨outerShown, innerShown, left, top⟩ := edgesNeeded_of_contains_ne undecided
    obtain ⟨outerWidth, outerHeight⟩ := isEmpty_eq_false_iff.mp outerShown
    obtain ⟨innerWidth, innerHeight⟩ := isEmpty_eq_false_iff.mp innerShown
    obtain ⟨innerRight, innerRightValue, outerRight, outerRightValue, right, innerBottom,
      innerBottomValue, outerBottom, outerBottomValue, bottom⟩ :=
      (contains_eq_ok_true_iff_edges outerShown innerShown left top).mp contained
    rw [Int32.le_iff_toInt_le] at right bottom
    exact {
      outerWidth, outerHeight, innerWidth, innerHeight
      left := Int32.le_iff_toInt_le.mp left
      top := Int32.le_iff_toInt_le.mp top
      right := by omega
      bottom := by omega
      rightInRange := outerRightValue ▸ Coordinate.inRange_toInt outerRight
      bottomInRange := outerBottomValue ▸ Coordinate.inRange_toInt outerBottom }
  · intro enclosed
    have innerFrom := Coordinate.inRange_toInt inner.x
    have innerDown := Coordinate.inRange_toInt inner.y
    have right := enclosed.rightInRange
    have bottom := enclosed.bottomInRange
    rw [Coordinate.InRange] at innerFrom innerDown right bottom
    have rightOrder := enclosed.right
    have bottomOrder := enclosed.bottom
    have innerWidth := enclosed.innerWidth
    have innerHeight := enclosed.innerHeight
    have innerRightInRange : Coordinate.InRange (inner.x.toInt + inner.width.toInt) :=
      ⟨by omega, by omega⟩
    have innerBottomInRange : Coordinate.InRange (inner.y.toInt + inner.height.toInt) :=
      ⟨by omega, by omega⟩
    obtain ⟨innerRight, innerRightValue⟩ := Coordinate.exists_toInt_eq innerRightInRange
    obtain ⟨innerBottom, innerBottomValue⟩ := Coordinate.exists_toInt_eq innerBottomInRange
    obtain ⟨outerRight, outerRightValue⟩ := Coordinate.exists_toInt_eq enclosed.rightInRange
    obtain ⟨outerBottom, outerBottomValue⟩ := Coordinate.exists_toInt_eq enclosed.bottomInRange
    apply (contains_eq_ok_true_iff_edges
      (isEmpty_eq_false_iff.mpr ⟨enclosed.outerWidth, enclosed.outerHeight⟩)
      (isEmpty_eq_false_iff.mpr ⟨innerWidth, innerHeight⟩)
      (Int32.le_iff_toInt_le.mpr enclosed.left) (Int32.le_iff_toInt_le.mpr enclosed.top)).mpr
    refine ⟨innerRight, innerRightValue, outerRight, outerRightValue, ?_, innerBottom,
      innerBottomValue, outerBottom, outerBottomValue, ?_⟩
    · rw [Int32.le_iff_toInt_le]
      omega
    · rw [Int32.le_iff_toInt_le]
      omega

/-- Seen from a corner, a rectangle keeps its size and its corner is the difference of the two.
There is an answer as soon as the differences are coordinates and the corner has an opposite. -/
theorem relativeTo_eq_ok_iff {r seen : Rectangle} {origin : Point} :
    r.relativeTo origin = .ok seen ↔
      origin.x ≠ Int32.minValue ∧ origin.y ≠ Int32.minValue ∧
        seen.x.toInt = r.x.toInt - origin.x.toInt ∧ seen.y.toInt = r.y.toInt - origin.y.toInt ∧
        seen.width = r.width ∧ seen.height = r.height := by
  unfold relativeTo moved
  rw [Coordinate.bind_negate_eq_ok_iff]
  constructor
  · rintro ⟨dx, dxValue, rest⟩
    rw [Coordinate.bind_negate_eq_ok_iff] at rest
    obtain ⟨dy, dyValue, rest⟩ := rest
    rw [Coordinate.bind_add_eq_ok_iff] at rest
    obtain ⟨x, xValue, rest⟩ := rest
    rw [Coordinate.bind_add_eq_ok_iff] at rest
    obtain ⟨y, yValue, rest⟩ := rest
    cases rest
    refine ⟨Coordinate.ne_minValue_of_toInt_eq_neg dxValue,
      Coordinate.ne_minValue_of_toInt_eq_neg dyValue, ?_, ?_, rfl, rfl⟩
    · show x.toInt = _
      omega
    · show y.toInt = _
      omega
  · rintro ⟨hasOppositeX, hasOppositeY, xValue, yValue, width, height⟩
    obtain ⟨dx, negatedX⟩ := Coordinate.exists_negate_eq_ok hasOppositeX
    obtain ⟨dy, negatedY⟩ := Coordinate.exists_negate_eq_ok hasOppositeY
    have dxValue := Coordinate.negate_eq_ok_iff.mp negatedX
    have dyValue := Coordinate.negate_eq_ok_iff.mp negatedY
    refine ⟨dx, dxValue.symm, Coordinate.bind_negate_eq_ok_iff.mpr ⟨dy, dyValue.symm, ?_⟩⟩
    refine Coordinate.bind_add_eq_ok_iff.mpr ⟨seen.x, by omega, ?_⟩
    refine Coordinate.bind_add_eq_ok_iff.mpr ⟨seen.y, by omega, ?_⟩
    cases seen
    cases width
    cases height
    rfl

/-- What lies inside an area lies at most one extent of the area away from its corner. -/
theorem Encloses.inRange_sub {outer inner : Rectangle} (enclosed : Encloses outer inner) :
    Coordinate.InRange (inner.x.toInt - outer.x.toInt) ∧
      Coordinate.InRange (inner.y.toInt - outer.y.toInt) := by
  have width := Coordinate.inRange_toInt outer.width
  have height := Coordinate.inRange_toInt outer.height
  unfold Coordinate.InRange at *
  obtain ⟨-, -, innerWidth, innerHeight, left, top, right, bottom, -, -⟩ := enclosed
  omega

end Rectangle

end FigureForm
