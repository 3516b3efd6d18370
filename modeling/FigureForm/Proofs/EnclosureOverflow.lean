/-
# When enclosure has no answer

The walk over frames and widgets has an answer exactly when no pair that it meets overflows, and the
answer then is `enclosed` (`enclose_eq_ok_iff`).  A pair overflows in two ways, both said in whole
numbers: the test asks for an edge that is no coordinate, or the frame takes the widget in although
the opposite of its corner is no coordinate.  The walk meets a frame and a widget unless an earlier
frame has taken the widget away.
-/

import FigureForm.Proofs.Enclosure

namespace FigureForm

namespace Coordinate

theorem add_eq_error_iff {a b : Coordinate} {cause : Overflow} :
    add a b = .error cause ↔ cause = .addition ∧ ¬ InRange (a.toInt + b.toInt) := by
  unfold add
  by_cases inRange : InRange (a.toInt + b.toInt)
  · rw [if_pos inRange]
    simp [inRange]
  · rw [if_neg inRange]
    simp [inRange, eq_comm]

/-- A checked sum leads to a failure when it is no coordinate or when what follows it fails. -/
theorem bind_add_eq_error_iff {α : Type} {a b : Coordinate} {next : Coordinate → Except Overflow α}
    {cause : Overflow} :
    (add a b >>= next) = .error cause ↔
      cause = .addition ∧ ¬ InRange (a.toInt + b.toInt) ∨
        ∃ sum : Coordinate, sum.toInt = a.toInt + b.toInt ∧ next sum = .error cause := by
  rw [bind_eq_error_iff, add_eq_error_iff]
  apply or_congr_right
  apply exists_congr
  intro sum
  rw [add_eq_ok_iff, eq_comm]

theorem negate_eq_error_iff {a : Coordinate} {cause : Overflow} :
    negate a = .error cause ↔ cause = .negation ∧ a = Int32.minValue := by
  constructor
  · intro refused
    have least : a = Int32.minValue := by
      apply Decidable.byContradiction
      intro notLeast
      obtain ⟨opposite, answered⟩ := exists_negate_eq_ok notLeast
      rw [answered] at refused
      cases refused
    subst least
    cases refused
    exact ⟨rfl, rfl⟩
  · rintro ⟨rfl, rfl⟩
    rfl

end Coordinate

namespace Rectangle

/-- An edge that the test whether an area contains a rectangle asks for is no coordinate.  The lower
edges are asked for only when the right ones are in order. -/
def LacksEdge (outer inner : Rectangle) : Prop :=
  ¬ Coordinate.InRange (inner.x.toInt + inner.width.toInt) ∨
    ¬ Coordinate.InRange (outer.x.toInt + outer.width.toInt) ∨
    inner.x.toInt + inner.width.toInt ≤ outer.x.toInt + outer.width.toInt ∧
      (¬ Coordinate.InRange (inner.y.toInt + inner.height.toInt) ∨
        ¬ Coordinate.InRange (outer.y.toInt + outer.height.toInt))

/-- The test whether an area contains a rectangle overflows.  It asks for no edge before both are
known to have an extent and the corners to be in order. -/
structure TestOverflows (outer inner : Rectangle) : Prop where
  outerWidth : 0 < outer.width.toInt
  outerHeight : 0 < outer.height.toInt
  innerWidth : 0 < inner.width.toInt
  innerHeight : 0 < inner.height.toInt
  left : outer.x.toInt ≤ inner.x.toInt
  top : outer.y.toInt ≤ inner.y.toInt
  edge : LacksEdge outer inner

/-- Testing a rectangle against an area, and moving it to the corner of the area if it lies inside,
overflows: the test does, or the corner has no opposite. -/
def Overflows (area inner : Rectangle) : Prop :=
  TestOverflows area inner ∨
    Encloses area inner ∧ (area.x = Int32.minValue ∨ area.y = Int32.minValue)

/-- Past the tests that need no edge, the test fails exactly when it lacks an edge. -/
theorem contains_eq_error_iff_lacksEdge {outer inner : Rectangle} {cause : Overflow}
    (outerShown : outer.isEmpty = false) (innerShown : inner.isEmpty = false)
    (left : outer.x ≤ inner.x) (top : outer.y ≤ inner.y) :
    outer.contains inner = .error cause ↔ cause = .addition ∧ LacksEdge outer inner := by
  unfold contains Rectangle.right Rectangle.bottom
  rw [outerShown, innerShown, Bool.or_self, if_neg Bool.false_ne_true, if_pos ⟨left, top⟩,
    Coordinate.bind_add_eq_error_iff]
  constructor
  · rintro (⟨isSum, lacking⟩ | ⟨innerRight, innerRightValue, failed⟩)
    · exact ⟨isSum, .inl lacking⟩
    rw [Coordinate.bind_add_eq_error_iff] at failed
    obtain ⟨isSum, lacking⟩ | ⟨outerRight, outerRightValue, failed⟩ := failed
    · exact ⟨isSum, .inr (.inl lacking)⟩
    by_cases inOrder : innerRight ≤ outerRight
    · rw [if_pos inOrder, Coordinate.bind_add_eq_error_iff] at failed
      rw [Int32.le_iff_toInt_le, innerRightValue, outerRightValue] at inOrder
      obtain ⟨isSum, lacking⟩ | ⟨innerBottom, -, failed⟩ := failed
      · exact ⟨isSum, .inr (.inr ⟨inOrder, .inl lacking⟩)⟩
      rw [Coordinate.bind_add_eq_error_iff] at failed
      obtain ⟨isSum, lacking⟩ | ⟨outerBottom, -, impossible⟩ := failed
      · exact ⟨isSum, .inr (.inr ⟨inOrder, .inr lacking⟩)⟩
      cases impossible
    · rw [if_neg inOrder] at failed
      cases failed
  · rintro ⟨isSum, lacking⟩
    by_cases innerRightInRange : Coordinate.InRange (inner.x.toInt + inner.width.toInt)
    · obtain ⟨innerRight, innerRightValue⟩ := Coordinate.exists_toInt_eq innerRightInRange
      refine .inr ⟨innerRight, innerRightValue, Coordinate.bind_add_eq_error_iff.mpr ?_⟩
      by_cases outerRightInRange : Coordinate.InRange (outer.x.toInt + outer.width.toInt)
      · obtain ⟨outerRight, outerRightValue⟩ := Coordinate.exists_toInt_eq outerRightInRange
        refine .inr ⟨outerRight, outerRightValue, ?_⟩
        obtain impossible | impossible | ⟨inOrder, lacking⟩ := lacking
        · exact absurd innerRightInRange impossible
        · exact absurd outerRightInRange impossible
        rw [← innerRightValue, ← outerRightValue, ← Int32.le_iff_toInt_le] at inOrder
        rw [if_pos inOrder, Coordinate.bind_add_eq_error_iff]
        by_cases innerBottomInRange : Coordinate.InRange (inner.y.toInt + inner.height.toInt)
        · obtain ⟨innerBottom, innerBottomValue⟩ := Coordinate.exists_toInt_eq innerBottomInRange
          obtain impossible | outerLacking := lacking
          · exact absurd innerBottomInRange impossible
          · exact .inr ⟨innerBottom, innerBottomValue,
              Coordinate.bind_add_eq_error_iff.mpr (.inl ⟨isSum, outerLacking⟩)⟩
        · exact .inl ⟨isSum, innerBottomInRange⟩
      · exact .inl ⟨isSum, outerRightInRange⟩
    · exact .inl ⟨isSum, innerRightInRange⟩

theorem contains_eq_error_iff {outer inner : Rectangle} {cause : Overflow} :
    outer.contains inner = .error cause ↔ cause = .addition ∧ TestOverflows outer inner := by
  constructor
  · intro failed
    have undecided : outer.contains inner ≠ .ok false := by
      rw [failed]
      simp
    obtain ⟨outerShown, innerShown, left, top⟩ := edgesNeeded_of_contains_ne undecided
    obtain ⟨outerWidth, outerHeight⟩ := isEmpty_eq_false_iff.mp outerShown
    obtain ⟨innerWidth, innerHeight⟩ := isEmpty_eq_false_iff.mp innerShown
    obtain ⟨isSum, edge⟩ :=
      (contains_eq_error_iff_lacksEdge outerShown innerShown left top).mp failed
    exact ⟨isSum, {
      outerWidth, outerHeight, innerWidth, innerHeight, edge
      left := Int32.le_iff_toInt_le.mp left
      top := Int32.le_iff_toInt_le.mp top }⟩
  · rintro ⟨isSum, overflows⟩
    exact (contains_eq_error_iff_lacksEdge
      (isEmpty_eq_false_iff.mpr ⟨overflows.outerWidth, overflows.outerHeight⟩)
      (isEmpty_eq_false_iff.mpr ⟨overflows.innerWidth, overflows.innerHeight⟩)
      (Int32.le_iff_toInt_le.mpr overflows.left)
      (Int32.le_iff_toInt_le.mpr overflows.top)).mpr ⟨isSum, overflows.edge⟩

/-- The test has an answer exactly when it does not overflow. -/
theorem exists_contains_eq_ok_iff {outer inner : Rectangle} :
    (∃ answer, outer.contains inner = .ok answer) ↔ ¬ TestOverflows outer inner := by
  cases test : outer.contains inner with
  | error cause =>
    have overflows := (contains_eq_error_iff.mp test).2
    simp [overflows]
  | ok answer =>
    have fits : ¬ TestOverflows outer inner := by
      intro overflows
      rw [contains_eq_error_iff.mpr ⟨rfl, overflows⟩] at test
      cases test
    simp [fits]

/-- A rectangle inside an area fails to be seen from the corner of the area only for want of an
opposite of the corner. -/
theorem relativeTo_eq_error {area inner : Rectangle} {cause : Overflow}
    (enclosed : Encloses area inner) (failed : inner.relativeTo area.origin = .error cause) :
    cause = .negation ∧ (area.x = Int32.minValue ∨ area.y = Int32.minValue) := by
  unfold relativeTo at failed
  obtain refused | ⟨dx, negatedX, failed⟩ := bind_eq_error_iff.mp failed
  · obtain ⟨isOpposite, least⟩ := Coordinate.negate_eq_error_iff.mp refused
    exact ⟨isOpposite, .inl least⟩
  obtain refused | ⟨dy, negatedY, failed⟩ := bind_eq_error_iff.mp failed
  · obtain ⟨isOpposite, least⟩ := Coordinate.negate_eq_error_iff.mp refused
    exact ⟨isOpposite, .inr least⟩
  -- With both opposites the sums are the differences of the corners, which are coordinates.
  obtain ⟨x, y⟩ := enclosed.inRange_sub
  rw [Coordinate.negate_eq_ok_iff] at negatedX negatedY
  unfold moved at failed
  obtain ⟨-, lacking⟩ | ⟨_, -, failed⟩ := Coordinate.bind_add_eq_error_iff.mp failed
  · rw [← negatedX] at lacking
    exact absurd x lacking
  obtain ⟨-, lacking⟩ | ⟨_, -, impossible⟩ := Coordinate.bind_add_eq_error_iff.mp failed
  · rw [← negatedY] at lacking
    exact absurd y lacking
  cases impossible

theorem not_overflows_iff {area inner : Rectangle} :
    ¬ Overflows area inner ↔
      (∃ answer, area.contains inner = .ok answer) ∧
        (area.contains inner = .ok true → area.x ≠ Int32.minValue ∧ area.y ≠ Int32.minValue) := by
  rw [exists_contains_eq_ok_iff, contains_eq_ok_true_iff]
  unfold Overflows
  rw [not_or, not_and, not_or]

end Rectangle

namespace Figure

/-- No frame overflows with a widget before the walk has taken the widget away: those up to the first
frame that holds it do not. -/
def Fits (frames : List WidgetNode) (node : WidgetNode) : Prop :=
  ∀ index frame, frames[index]? = some frame → frame.isFrame = true →
    (∀ first, holder? frames node = some first → index ≤ first) →
      ¬ Rectangle.Overflows frame.geometry node.geometry

theorem fits_iff {frames : List WidgetNode} {node : WidgetNode} :
    Fits frames node ↔ Tested frames node ∧ HasOppositeCorner frames node := by
  constructor
  · intro fits
    constructor
    · intro index frame found isFrame upToFirst
      exact (Rectangle.not_overflows_iff.mp (fits index frame found isFrame upToFirst)).1
    · intro index frame isFirst found
      obtain ⟨inside, held, -⟩ := List.findIdx?_eq_some_iff_getElem.mp isFirst
      have same : frames[index] = frame := by
        rw [List.getElem?_eq_getElem inside] at found
        exact Option.some.inj found
      rw [same] at held
      obtain ⟨isFrame, contained⟩ := holds_eq_true_iff.mp held
      have upToFirst : ∀ first, holder? frames node = some first → index ≤ first := by
        intro first alsoFirst
        rw [isFirst] at alsoFirst
        cases alsoFirst
        exact Nat.le_refl index
      exact (Rectangle.not_overflows_iff.mp (fits index frame found isFrame upToFirst)).2 contained
  · rintro ⟨tested, opposite⟩ index frame found isFrame upToFirst
    refine Rectangle.not_overflows_iff.mpr ⟨tested index frame found isFrame upToFirst, ?_⟩
    intro contained
    have held : holds frame node = true := holds_eq_true_iff.mpr ⟨isFrame, contained⟩
    -- The frame is the first that holds the widget: none before it does.
    have isFirst : holder? frames node = some index := by
      cases first : holder? frames node with
      | none =>
        have free := List.findIdx?_eq_none_iff.mp first frame (List.mem_of_getElem? found)
        rw [held] at free
        cases free
      | some earlier =>
        obtain ⟨inside, -, noneBefore⟩ := List.findIdx?_eq_some_iff_getElem.mp first
        apply congrArg some
        apply Nat.le_antisymm _ (upToFirst earlier first)
        apply Nat.le_of_not_lt
        intro before
        have free := noneBefore index before
        rw [List.getElem?_eq_getElem (Nat.lt_trans before inside)] at found
        cases found
        exact free held
    exact opposite index frame isFirst found

/-- The step of the walk, for one widget: it meets the frame in front, and the frames behind if that
one leaves it over. -/
theorem fits_cons {frame : WidgetNode} {frames : List WidgetNode} {node : WidgetNode}
    (front : frame.isFrame = true → ¬ Rectangle.Overflows frame.geometry node.geometry)
    (behind : ¬ holds frame node = true → Fits frames node) : Fits (frame :: frames) node := by
  intro index later found isFrame upToFirst
  rw [holder?_cons] at upToFirst
  cases index with
  | zero =>
    cases found
    exact front isFrame
  | succ index =>
    by_cases held : holds frame node = true
    · rw [if_pos held] at upToFirst
      exact absurd (upToFirst 0 rfl) (Nat.not_succ_le_zero index)
    · rw [if_neg held] at upToFirst
      apply behind held index later found isFrame
      intro first isFirst
      exact Nat.le_of_succ_le_succ (upToFirst (first + 1) (by rw [isFirst]; rfl))

/-- One step of a pass, for a widget inside the area. -/
theorem takeInside_of_inside {area : Rectangle} {node : WidgetNode} {rest : List WidgetNode}
    (inside : area.contains node.geometry = .ok true) :
    takeInside area (node :: rest) = (do
      let geometry ← node.geometry.relativeTo area.origin
      let (taken, left) ← takeInside area rest
      return ({ node with geometry } :: taken, left)) := by
  rw [takeInside, inside]
  rfl

/-- One step of a pass, for a widget outside the area. -/
theorem takeInside_of_outside {area : Rectangle} {node : WidgetNode} {rest : List WidgetNode}
    (outside : area.contains node.geometry = .ok false) :
    takeInside area (node :: rest) = (do
      let (taken, left) ← takeInside area rest
      return (taken, node :: left)) := by
  rw [takeInside, outside]
  rfl

/-- A frame's pass over a pool that has a result overflows with no widget of the pool. -/
theorem not_overflows_of_takeInside {area : Rectangle} {pool : List WidgetNode}
    {result : List WidgetNode × List WidgetNode} (pass : takeInside area pool = .ok result) :
    ∀ node ∈ pool, ¬ Rectangle.Overflows area node.geometry := by
  induction pool generalizing result with
  | nil =>
    intro node member
    cases member
  | cons first rest ih =>
    have tested : ∃ answer, area.contains first.geometry = .ok answer := by
      rw [takeInside] at pass
      obtain ⟨answer, tested, -⟩ := bind_eq_ok_iff.mp pass
      exact ⟨answer, tested⟩
    intro node member
    obtain ⟨_ | _, tested⟩ := tested
    · rw [takeInside_of_outside tested] at pass
      obtain ⟨later, passed, -⟩ := bind_eq_ok_iff.mp pass
      obtain rfl | among := List.mem_cons.mp member
      · refine Rectangle.not_overflows_iff.mpr ⟨⟨false, tested⟩, fun contained => ?_⟩
        rw [tested] at contained
        cases contained
      · exact ih passed node among
    · rw [takeInside_of_inside tested] at pass
      obtain ⟨seen, moved, pass⟩ := bind_eq_ok_iff.mp pass
      obtain ⟨later, passed, -⟩ := bind_eq_ok_iff.mp pass
      obtain rfl | among := List.mem_cons.mp member
      · obtain ⟨x, y, -⟩ := Rectangle.relativeTo_eq_ok_iff.mp moved
        exact Rectangle.not_overflows_iff.mpr ⟨⟨true, tested⟩, fun _ => ⟨x, y⟩⟩
      · exact ih passed node among

/-- A pass that overflows with no widget of the pool takes out what the frame holds. -/
theorem takeInside_eq_ok_of_not_overflows {frame : WidgetNode} {pool : List WidgetNode}
    (isFrame : frame.isFrame = true)
    (fits : ∀ node ∈ pool, ¬ Rectangle.Overflows frame.geometry node.geometry) :
    takeInside frame.geometry pool =
      .ok ((pool.filter (holds frame)).map (seenFrom frame),
        pool.filter fun node => !holds frame node) := by
  apply takeInside_eq_ok isFrame
  · intro node member
    exact (Rectangle.not_overflows_iff.mp (fits node member)).1
  · intro node member held
    exact (Rectangle.not_overflows_iff.mp (fits node member)).2 (holds_eq_true_iff.mp held).2

/-- A walk that has a result overflows nowhere.  The induction is on the frames, for every pool: the
pool behind the frame in front is what that frame leaves over. -/
theorem fits_of_enclose {frames others widgets : List WidgetNode}
    (answered : enclose frames others = .ok widgets) : ∀ node ∈ others, Fits frames node := by
  induction frames generalizing others widgets with
  | nil =>
    intro node _ index frame found
    cases found
  | cons frame frames ih =>
    intro node member
    by_cases isFrame : frame.isFrame = true
    · rw [enclose, if_pos isFrame] at answered
      obtain ⟨⟨taken, left⟩, pass, answered⟩ := bind_eq_ok_iff.mp answered
      obtain ⟨nodes, walked, -⟩ := bind_eq_ok_iff.mp answered
      have fits := not_overflows_of_takeInside pass
      have split := takeInside_eq_ok_of_not_overflows isFrame fits
      rw [pass] at split
      cases split
      refine fits_cons (fun _ => fits node member) fun free => ih walked node ?_
      exact List.mem_filter.mpr ⟨member, by simpa using free⟩
    · rw [enclose, if_neg isFrame] at answered
      obtain ⟨nodes, walked, -⟩ := bind_eq_ok_iff.mp answered
      exact fits_cons (fun impossible => absurd impossible isFrame) fun _ => ih walked node member

/-- Enclosure has an answer exactly when the walk overflows nowhere, and the answer is that the first
frame around a widget takes it in. -/
theorem enclose_eq_ok_iff {frames others widgets : List WidgetNode} :
    enclose frames others = .ok widgets ↔
      (∀ node ∈ others, Fits frames node) ∧ widgets = enclosed frames others := by
  have complete (fits : ∀ node ∈ others, Fits frames node) :
      enclose frames others = .ok (enclosed frames others) :=
    enclose_eq_enclosed (fun node member => (fits_iff.mp (fits node member)).1)
      (fun node member => (fits_iff.mp (fits node member)).2)
  constructor
  · intro answered
    have fits := fits_of_enclose answered
    rw [complete fits] at answered
    exact ⟨fits, (Except.ok.inj answered).symm⟩
  · rintro ⟨fits, rfl⟩
    exact complete fits

/-- When every test of a pass has an answer, the pass fails only for want of an opposite. -/
theorem takeInside_eq_error {area : Rectangle} {pool : List WidgetNode} {cause : Overflow}
    (answered : ∀ node ∈ pool, ∃ answer, area.contains node.geometry = .ok answer)
    (failed : takeInside area pool = .error cause) : cause = .negation := by
  induction pool with
  | nil => cases failed
  | cons first rest ih =>
    have later := ih fun node member => answered node (List.mem_cons_of_mem _ member)
    obtain ⟨_ | _, tested⟩ := answered first List.mem_cons_self
    · rw [takeInside_of_outside tested] at failed
      obtain failed | ⟨_, -, impossible⟩ := bind_eq_error_iff.mp failed
      · exact later failed
      · cases impossible
    · rw [takeInside_of_inside tested] at failed
      obtain refused | ⟨seen, -, failed⟩ := bind_eq_error_iff.mp failed
      · exact (Rectangle.relativeTo_eq_error (Rectangle.contains_eq_ok_true_iff.mp tested)
          refused).1
      obtain failed | ⟨_, -, impossible⟩ := bind_eq_error_iff.mp failed
      · exact later failed
      · cases impossible

/-- When every test of the walk has an answer, the walk fails only for want of an opposite. -/
theorem enclose_eq_error {frames others : List WidgetNode} {cause : Overflow}
    (tested : ∀ node ∈ others, Tested frames node)
    (failed : enclose frames others = .error cause) : cause = .negation := by
  induction frames generalizing others with
  | nil => cases failed
  | cons frame frames ih =>
    by_cases isFrame : frame.isFrame = true
    · have answered : ∀ node ∈ others,
          ∃ answer, frame.geometry.contains node.geometry = .ok answer :=
        fun node member => tested node member 0 frame rfl isFrame fun first _ => first.zero_le
      rw [enclose, if_pos isFrame] at failed
      obtain failed | ⟨⟨taken, left⟩, pass, failed⟩ := bind_eq_error_iff.mp failed
      · exact takeInside_eq_error answered failed
      have split := takeInside_eq_ok_of_not_overflows isFrame (not_overflows_of_takeInside pass)
      rw [pass] at split
      cases split
      obtain failed | ⟨_, -, impossible⟩ := bind_eq_error_iff.mp failed
      · refine ih (fun node member => ?_) failed
        obtain ⟨among, free⟩ := List.mem_filter.mp member
        exact tested_of_not_holds (by simpa using free) (tested node among)
      · cases impossible
    · rw [enclose, if_neg isFrame] at failed
      obtain failed | ⟨_, -, impossible⟩ := bind_eq_error_iff.mp failed
      · refine ih (fun node member => ?_) failed
        apply tested_of_not_holds _ (tested node member)
        exact fun held => isFrame (holds_eq_true_iff.mp held).1
      · cases impossible

end Figure

end FigureForm
