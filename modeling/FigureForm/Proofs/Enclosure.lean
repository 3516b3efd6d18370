/-
# The first frame around a widget

`enclose` walks over the frames and takes what lies inside each of them out of a shrinking pool.
Here its result is said at once, widget by widget: `holder?` is the least index of a frame that
contains a widget, every frame keeps its fields and its own children and takes in what it is the
first to contain, and what nothing contains follows in order.  The pool in front of a frame is what
no earlier frame contains, which is the invariant of the walk.  Overflows are left out by assuming
that the tests which the walk makes have answers and that the corners of frames that take something
in have opposites; no other sum can overflow.
-/

import FigureForm.Figure.Enclosure
import FigureForm.Proofs.Rectangle

namespace FigureForm.Figure

open WidgetNode

/-- Whether a node is a frame whose rectangle contains that of a widget. -/
def holds (frame node : WidgetNode) : Bool :=
  frame.isFrame &&
    match frame.geometry.contains node.geometry with
    | .ok answer => answer
    | .error _ => false

/-- The least index of a frame that holds a widget. -/
def holder? (frames : List WidgetNode) (node : WidgetNode) : Option Nat :=
  frames.findIdx? fun frame => holds frame node

/-- The widgets whose first frame stands at an index. -/
def heldAt (frames others : List WidgetNode) (index : Nat) : List WidgetNode :=
  others.filter fun node => holder? frames node == some index

/-- The widgets that no frame holds. -/
def unheld (frames others : List WidgetNode) : List WidgetNode :=
  others.filter fun node => holder? frames node == none

/-- A widget as seen from the corner of a frame.  Everything but the corner stays as it is. -/
def seenFrom (frame node : WidgetNode) : WidgetNode :=
  { node with
    geometry := { node.geometry with
      x := Int32.ofInt (node.geometry.x.toInt - frame.geometry.x.toInt)
      y := Int32.ofInt (node.geometry.y.toInt - frame.geometry.y.toInt) } }

/-- A frame with further children behind its own. -/
def withHeld (frame : WidgetNode) (held : List WidgetNode) : WidgetNode :=
  { frame with children := frame.children ++ held.map (seenFrom frame) }

/-- The frames with what each is the first to hold, and then what none holds. -/
def enclosed (frames others : List WidgetNode) : List WidgetNode :=
  (frames.mapIdx fun index frame => withHeld frame (heldAt frames others index)) ++
    unheld frames others

/-- The tests of a widget that the walk makes have answers: those against frames up to the first
that holds it. -/
def Tested (frames : List WidgetNode) (node : WidgetNode) : Prop :=
  ∀ index frame, frames[index]? = some frame → frame.isFrame = true →
    (∀ first, holder? frames node = some first → index ≤ first) →
      ∃ answer, frame.geometry.contains node.geometry = .ok answer

/-- The corner of the first frame that holds a widget, if there is one, has an opposite. -/
def HasOppositeCorner (frames : List WidgetNode) (node : WidgetNode) : Prop :=
  ∀ index frame, holder? frames node = some index → frames[index]? = some frame →
    frame.geometry.x ≠ Int32.minValue ∧ frame.geometry.y ≠ Int32.minValue

theorem holds_eq_true_iff {frame node : WidgetNode} :
    holds frame node = true ↔
      frame.isFrame = true ∧ frame.geometry.contains node.geometry = .ok true := by
  rw [holds, Bool.and_eq_true]
  apply and_congr_right
  intro _
  cases frame.geometry.contains node.geometry with
  | error cause => simp
  | ok answer => simp

/-- A widget inside a frame is seen from it at the exact differences of the corners. -/
theorem toInt_seenFrom {frame node : WidgetNode} (held : holds frame node = true) :
    (seenFrom frame node).geometry.x.toInt = node.geometry.x.toInt - frame.geometry.x.toInt ∧
      (seenFrom frame node).geometry.y.toInt =
        node.geometry.y.toInt - frame.geometry.y.toInt := by
  have contained := (holds_eq_true_iff.mp held).2
  obtain ⟨x, y⟩ := (Rectangle.contains_eq_ok_true_iff.mp contained).inRange_sub
  exact ⟨Coordinate.toInt_ofInt x, Coordinate.toInt_ofInt y⟩

/-- The checked change of origin computes what is seen from a frame. -/
theorem relativeTo_eq_seenFrom {frame node : WidgetNode} (held : holds frame node = true)
    (x : frame.geometry.x ≠ Int32.minValue) (y : frame.geometry.y ≠ Int32.minValue) :
    node.geometry.relativeTo frame.geometry.origin = .ok (seenFrom frame node).geometry := by
  obtain ⟨xValue, yValue⟩ := toInt_seenFrom held
  exact Rectangle.relativeTo_eq_ok_iff.mpr ⟨x, y, xValue, yValue, rfl, rfl⟩

theorem withHeld_nil (frame : WidgetNode) : withHeld frame [] = frame := by
  cases frame
  rw [withHeld, List.map_nil, List.append_nil]

theorem holder?_cons (frame : WidgetNode) (frames : List WidgetNode) (node : WidgetNode) :
    holder? (frame :: frames) node =
      if holds frame node then some 0 else (holder? frames node).map (· + 1) := by
  unfold holder?
  rw [List.findIdx?_cons]

/-- What is asked of the first frame of a widget, if it cannot be the frame in front, is asked of the
widgets that this frame leaves over. -/
theorem filter_holder?_cons (frame : WidgetNode) (frames others : List WidgetNode)
    (wanted : Option Nat → Bool) (notInFront : wanted (some 0) = false) :
    (others.filter fun node => wanted (holder? (frame :: frames) node)) =
      (others.filter fun node => !holds frame node).filter fun node =>
        wanted ((holder? frames node).map (· + 1)) := by
  rw [List.filter_filter]
  apply List.filter_congr
  intro node _
  rw [holder?_cons]
  by_cases held : holds frame node = true
  · rw [if_pos held, notInFront, held]
    simp
  · rw [if_neg held, Bool.eq_false_iff.mpr held]
    simp

/-- The frame in front is the first for all that it holds. -/
theorem heldAt_cons_zero (frame : WidgetNode) (frames others : List WidgetNode) :
    heldAt (frame :: frames) others 0 = others.filter (holds frame) := by
  apply List.filter_congr
  intro node _
  rw [holder?_cons]
  by_cases held : holds frame node = true
  · rw [if_pos held, held]
    rfl
  · rw [if_neg held, Bool.eq_false_iff.mpr held]
    cases holder? frames node <;> rfl

/-- The frames behind hold among what the frame in front leaves over. -/
theorem heldAt_cons_succ (frame : WidgetNode) (frames others : List WidgetNode) (index : Nat) :
    heldAt (frame :: frames) others (index + 1) =
      heldAt frames (others.filter fun node => !holds frame node) index := by
  apply (filter_holder?_cons frame frames others (· == some (index + 1)) rfl).trans
  apply List.filter_congr
  intro node _
  cases holder? frames node with
  | none => rfl
  | some first => exact Bool.eq_iff_iff.mpr (by simp)

theorem unheld_cons (frame : WidgetNode) (frames others : List WidgetNode) :
    unheld (frame :: frames) others =
      unheld frames (others.filter fun node => !holds frame node) := by
  apply (filter_holder?_cons frame frames others (· == none) rfl).trans
  apply List.filter_congr
  intro node _
  cases holder? frames node <;> rfl

theorem unheld_nil (others : List WidgetNode) : unheld [] others = others :=
  List.filter_eq_self.mpr fun _ _ => rfl

/-- The step of the walk: what the frame in front holds leaves the pool of the frames behind. -/
theorem enclosed_cons (frame : WidgetNode) (frames others : List WidgetNode) :
    enclosed (frame :: frames) others =
      withHeld frame (others.filter (holds frame)) ::
        enclosed frames (others.filter fun node => !holds frame node) := by
  unfold enclosed
  rw [List.mapIdx_cons, heldAt_cons_zero, unheld_cons, List.cons_append]
  simp only [heldAt_cons_succ]

/-- One frame's pass over the pool, when every test has an answer. -/
theorem takeInside_eq_ok {frame : WidgetNode} {pool : List WidgetNode}
    (isFrame : frame.isFrame = true)
    (answered : ∀ node ∈ pool, ∃ answer, frame.geometry.contains node.geometry = .ok answer)
    (opposite : ∀ node ∈ pool, holds frame node = true →
      frame.geometry.x ≠ Int32.minValue ∧ frame.geometry.y ≠ Int32.minValue) :
    takeInside frame.geometry pool =
      .ok ((pool.filter (holds frame)).map (seenFrom frame),
        pool.filter fun node => !holds frame node) := by
  induction pool with
  | nil => rfl
  | cons node rest ih =>
    have others := ih (fun later member => answered later (List.mem_cons_of_mem _ member))
      (fun later member => opposite later (List.mem_cons_of_mem _ member))
    obtain ⟨answer, tested⟩ := answered node List.mem_cons_self
    rw [takeInside, tested, others]
    cases answer with
    | false =>
      have free : holds frame node = false := by
        apply Bool.eq_false_iff.mpr
        intro held
        rw [(holds_eq_true_iff.mp held).2] at tested
        cases tested
      rw [List.filter_cons_of_neg (Bool.eq_false_iff.mp free),
        List.filter_cons_of_pos (by rw [free]; rfl)]
      rfl
    | true =>
      have held : holds frame node = true := holds_eq_true_iff.mpr ⟨isFrame, tested⟩
      obtain ⟨x, y⟩ := opposite node List.mem_cons_self held
      rw [relativeTo_eq_seenFrom held x y, List.filter_cons_of_pos held,
        List.filter_cons_of_neg (by rw [held]; simp)]
      rfl

/-- A widget that the frame in front leaves over is tested against the frames behind, and its first
frame is among them. -/
theorem tested_of_not_holds {frame : WidgetNode} {frames : List WidgetNode} {node : WidgetNode}
    (free : ¬ holds frame node = true) (tested : Tested (frame :: frames) node) :
    Tested frames node := by
  intro index later found isFrame upToFirst
  apply tested (index + 1) later found isFrame
  intro first isFirst
  rw [holder?_cons, if_neg free] at isFirst
  obtain ⟨before, isBefore, rfl⟩ := Option.map_eq_some_iff.mp isFirst
  exact Nat.succ_le_succ (upToFirst before isBefore)

theorem hasOppositeCorner_of_not_holds {frame : WidgetNode} {frames : List WidgetNode}
    {node : WidgetNode} (free : ¬ holds frame node = true)
    (opposite : HasOppositeCorner (frame :: frames) node) : HasOppositeCorner frames node := by
  intro index later isFirst found
  apply opposite (index + 1) later _ found
  rw [holder?_cons, if_neg free, isFirst]
  rfl

theorem count_seenFrom (frame node : WidgetNode) : (seenFrom frame node).count = node.count := by
  rw [count_eq, count_eq]
  rfl

theorem countAll_append (nodes more : List WidgetNode) :
    countAll (nodes ++ more) = countAll nodes + countAll more := by
  induction nodes with
  | nil => rw [List.nil_append, countAll, Nat.zero_add]
  | cons node rest ih => rw [List.cons_append, countAll, countAll, ih, Nat.add_assoc]

theorem countAll_map_seenFrom (frame : WidgetNode) (nodes : List WidgetNode) :
    countAll (nodes.map (seenFrom frame)) = countAll nodes := by
  induction nodes with
  | nil => rfl
  | cons node rest ih => rw [List.map_cons, countAll, countAll, count_seenFrom, ih]

theorem countAll_filter_add (nodes : List WidgetNode) (wanted : WidgetNode → Bool) :
    countAll (nodes.filter wanted) + countAll (nodes.filter fun node => !wanted node) =
      countAll nodes := by
  induction nodes with
  | nil => rfl
  | cons node rest ih =>
    rw [countAll]
    by_cases isWanted : wanted node = true
    · rw [List.filter_cons_of_pos isWanted, List.filter_cons_of_neg (by rw [isWanted]; simp),
        countAll]
      omega
    · rw [List.filter_cons_of_neg isWanted,
        List.filter_cons_of_pos (by rw [Bool.eq_false_iff.mpr isWanted]; rfl), countAll]
      omega

/-- No widget is lost or doubled on the way into a frame. -/
theorem countAll_enclosed (frames others : List WidgetNode) :
    countAll (enclosed frames others) = countAll frames + countAll others := by
  induction frames generalizing others with
  | nil =>
    have all : enclosed [] others = others := unheld_nil others
    rw [all, countAll, Nat.zero_add]
  | cons frame frames ih =>
    have split := countAll_filter_add others (holds frame)
    rw [enclosed_cons, countAll, ih, countAll, count_eq, count_eq]
    show 1 + countAll (frame.children ++ _) + _ = _
    rw [countAll_append, countAll_map_seenFrom]
    omega

/-- The walk computes `enclosed`.  The induction is on the frames, for every pool: the pool that the
frames behind meet is what the frame in front leaves over, and the assumptions pass on to it. -/
theorem enclose_eq_enclosed {frames others : List WidgetNode}
    (tested : ∀ node ∈ others, Tested frames node)
    (opposite : ∀ node ∈ others, HasOppositeCorner frames node) :
    enclose frames others = .ok (enclosed frames others) := by
  induction frames generalizing others with
  | nil =>
    have all : enclosed [] others = others := unheld_nil others
    rw [enclose, all]
  | cons frame frames ih =>
    have behind := @ih (others.filter fun node => !holds frame node)
      (by
        intro node member
        obtain ⟨among, free⟩ := List.mem_filter.mp member
        exact tested_of_not_holds (by simpa using free) (tested node among))
      (by
        intro node member
        obtain ⟨among, free⟩ := List.mem_filter.mp member
        exact hasOppositeCorner_of_not_holds (by simpa using free) (opposite node among))
    rw [enclosed_cons]
    by_cases isFrame : frame.isFrame = true
    · have answered : ∀ node ∈ others,
          ∃ answer, frame.geometry.contains node.geometry = .ok answer :=
        fun node member => tested node member 0 frame rfl isFrame fun first _ => first.zero_le
      have inFront : ∀ node ∈ others, holds frame node = true →
          frame.geometry.x ≠ Int32.minValue ∧ frame.geometry.y ≠ Int32.minValue := by
        intro node member held
        exact opposite node member 0 frame (by rw [holder?_cons, if_pos held]) rfl
      have pass := takeInside_eq_ok isFrame answered inFront
      rw [enclose, if_pos isFrame, pass]
      show (do let nodes ← enclose frames _; pure _) = _
      rw [behind]
      rfl
    · have free (node : WidgetNode) : ¬ holds frame node = true :=
        fun held => isFrame (holds_eq_true_iff.mp held).1
      have none : others.filter (holds frame) = [] :=
        List.filter_eq_nil_iff.mpr fun node _ => free node
      have all : (others.filter fun node => !holds frame node) = others :=
        List.filter_eq_self.mpr fun node _ => by simpa using free node
      rw [all] at behind
      rw [enclose, if_neg isFrame, behind, none, withHeld_nil, all]
      rfl

/-- Enclosure is exactly that the first frame around a widget takes it in: there is a result, it is
`enclosed frames others`, widgets inside a frame are seen from it at the exact differences of the
corners, and the number of widgets at every depth stays the same. -/
theorem enclose_first_holder {frames others : List WidgetNode}
    (tested : ∀ node ∈ others, Tested frames node)
    (opposite : ∀ node ∈ others, HasOppositeCorner frames node) :
    enclose frames others = .ok (enclosed frames others) ∧
      (∀ node ∈ others, ∀ index frame, holder? frames node = some index →
        frames[index]? = some frame →
        (seenFrom frame node).geometry.x.toInt =
            node.geometry.x.toInt - frame.geometry.x.toInt ∧
          (seenFrom frame node).geometry.y.toInt =
            node.geometry.y.toInt - frame.geometry.y.toInt) ∧
      countAll (enclosed frames others) = countAll frames + countAll others := by
  refine ⟨enclose_eq_enclosed tested opposite, ?_, countAll_enclosed frames others⟩
  intro node _ index frame isFirst found
  apply toInt_seenFrom
  obtain ⟨inside, held, -⟩ := List.findIdx?_eq_some_iff_getElem.mp isFirst
  rw [List.getElem?_eq_getElem inside] at found
  cases found
  exact held

/-- Tests with answers for all pairs are more than the walk makes. -/
theorem tested_of_isOk {frames others : List WidgetNode}
    (answered : ∀ node ∈ others, ∀ frame ∈ frames,
      (frame.geometry.contains node.geometry).isOk = true) :
    ∀ node ∈ others, Tested frames node := by
  intro node member index frame found _ _
  exact exists_ok_of_isOk (answered node member frame (List.mem_of_getElem? found))

/-- A widget of a kind at a place. -/
def placed (kind : WidgetKind) (tag : String) (geometry : Rectangle) : WidgetNode :=
  { WidgetNode.plain kind tag with geometry }

/-- Two overlapping frames behind a plot, the first with a child of its own. -/
def overlappingFrames : List WidgetNode :=
  [placed .axes "plot" ⟨0, 0, 50, 50⟩,
    { placed .frame "outer" ⟨10, 10, 100, 100⟩ with children := [placed .text "own" ⟨1, 1, 1, 1⟩] },
    placed .frame "inner" ⟨20, 20, 30, 30⟩]

/-- A widget outside, one inside both frames, and one without extent. -/
def scatteredWidgets : List WidgetNode :=
  [placed .edit "far" ⟨200, 0, 5, 5⟩, placed .pushButton "both" ⟨25, 26, 5, 5⟩,
    placed .slider "flat" ⟨30, 30, 0, 5⟩]

/-- The plot is no frame and takes nothing in, the first of two frames takes in what lies inside both,
and a widget without extent stays outside. -/
theorem enclose_first_holder_overlapping :
    (∀ node ∈ scatteredWidgets, Tested overlappingFrames node) ∧
      (∀ node ∈ scatteredWidgets, HasOppositeCorner overlappingFrames node) ∧
      enclose overlappingFrames scatteredWidgets = .ok
        [placed .axes "plot" ⟨0, 0, 50, 50⟩,
          { placed .frame "outer" ⟨10, 10, 100, 100⟩ with
            children :=
              [placed .text "own" ⟨1, 1, 1, 1⟩, placed .pushButton "both" ⟨15, 16, 5, 5⟩] },
          placed .frame "inner" ⟨20, 20, 30, 30⟩, placed .edit "far" ⟨200, 0, 5, 5⟩,
          placed .slider "flat" ⟨30, 30, 0, 5⟩] := by
  have answered : ∀ node ∈ scatteredWidgets, ∀ frame ∈ overlappingFrames,
      (frame.geometry.contains node.geometry).isOk = true := by
    decide
  have tested : ∀ node ∈ scatteredWidgets, Tested overlappingFrames node :=
    tested_of_isOk answered
  have opposite : ∀ node ∈ scatteredWidgets, HasOppositeCorner overlappingFrames node := by
    have corners : ∀ frame ∈ overlappingFrames,
        frame.geometry.x ≠ Int32.minValue ∧ frame.geometry.y ≠ Int32.minValue := by
      decide
    intro node _ index frame _ found
    exact corners frame (List.mem_of_getElem? found)
  refine ⟨tested, opposite, (enclose_first_holder tested opposite).1.trans ?_⟩
  unfold enclosed heldAt unheld overlappingFrames scatteredWidgets
  simp only [List.mapIdx_cons, List.mapIdx_nil]
  rfl

end FigureForm.Figure
