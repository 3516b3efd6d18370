/-
# Positions and the rectangles they resolve to

A figure places things from the bottom left corner of what encloses them, in its own units.  A
form wants whole pixels from the top left, so the vertical axis is flipped against the pixel
height of the enclosing area, and every length is rounded up.
-/

import FigureForm.Placement.Unit
import FigureForm.Rectangle

namespace FigureForm

/-- A position in a figure, from the bottom left corner and in units. -/
structure Position where
  left : Float
  bottom : Float
  width : Float
  height : Float

namespace Position

/-- The position given by the first four numbers; nothing when there are fewer. -/
def ofNumbers? : List Float → Option Position
  | left :: bottom :: width :: height :: _ => some ⟨left, bottom, width, height⟩
  | _ => none

/-- The height in pixels. -/
def pixelHeight (position : Position) (scale : Scale) : Coordinate :=
  Rounding.ceil (position.height * scale.vertical)

/-- The distance from the top edge of an area of the given height to the top of the position. -/
def top (position : Position) (scale : Scale) (areaHeight : Coordinate) : Float :=
  Float.ofInt areaHeight.toInt - (position.bottom + position.height) * scale.vertical

/-- The rectangle of a position inside an area of the given height. -/
def resolve (position : Position) (scale : Scale) (areaHeight : Coordinate) : Rectangle where
  x := Rounding.ceil (position.left * scale.horizontal)
  y := Rounding.ceil (position.top scale areaHeight).abs
  width := Rounding.ceil (position.width * scale.horizontal)
  height := position.pixelHeight scale

end Position

end FigureForm
