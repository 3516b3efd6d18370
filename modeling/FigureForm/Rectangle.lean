/-
# Pixel rectangles

Rectangles with the origin at the top left and y growing downward.  The edges are sums of
coordinates, so they and everything computed from them may overflow.  `contains` looks at the edges
only as far as it has to: an earlier comparison that fails decides without them.
-/

import FigureForm.Coordinate

namespace FigureForm

/-- A point in pixel space. -/
structure Point where
  x : Coordinate
  y : Coordinate
  deriving DecidableEq, Repr

/-- A rectangle in pixel space. -/
structure Rectangle where
  x : Coordinate
  y : Coordinate
  width : Coordinate
  height : Coordinate
  deriving DecidableEq, Repr

namespace Rectangle

/-- The rectangle of no size at the origin. -/
def zero : Rectangle :=
  ⟨0, 0, 0, 0⟩

instance : Inhabited Rectangle :=
  ⟨zero⟩

/-- The top left corner. -/
def origin (r : Rectangle) : Point :=
  ⟨r.x, r.y⟩

/-- The first column to the right of the rectangle. -/
def right (r : Rectangle) : Except Overflow Coordinate :=
  Coordinate.add r.x r.width

/-- The first row below the rectangle. -/
def bottom (r : Rectangle) : Except Overflow Coordinate :=
  Coordinate.add r.y r.height

/-- A rectangle without area covers no pixel. -/
def isEmpty (r : Rectangle) : Bool :=
  r.width ≤ 0 || r.height ≤ 0

/-- Whether `inner` lies completely inside `outer`, edges included.  An empty rectangle neither
contains nor is contained. -/
def contains (outer inner : Rectangle) : Except Overflow Bool :=
  if outer.isEmpty || inner.isEmpty then .ok false
  else if outer.x ≤ inner.x ∧ outer.y ≤ inner.y then do
    let innerRight ← inner.right
    let outerRight ← outer.right
    if innerRight ≤ outerRight then do
      let innerBottom ← inner.bottom
      let outerBottom ← outer.bottom
      return innerBottom ≤ outerBottom
    else
      return false
  else .ok false

/-- The rectangle moved by an offset. -/
def moved (r : Rectangle) (dx dy : Coordinate) : Except Overflow Rectangle := do
  let x ← Coordinate.add r.x dx
  let y ← Coordinate.add r.y dy
  return { r with x, y }

/-- The rectangle as seen from a new origin. -/
def relativeTo (r : Rectangle) (origin : Point) : Except Overflow Rectangle := do
  let dx ← Coordinate.negate origin.x
  let dy ← Coordinate.negate origin.y
  r.moved dx dy

end Rectangle

end FigureForm
