/-
# Colors

An opaque color with three byte channels, made from intensities between zero and one, and the style
rule that paints a widget's background with it.
-/

import FigureForm.Rounding

namespace FigureForm

/-- An opaque color. -/
structure Color where
  red : UInt8
  green : UInt8
  blue : UInt8
  deriving DecidableEq, Repr

namespace Color

/-- A double moved into the interval from zero to one. -/
def clampUnit (value : Float) : Float :=
  if value < 0.0 then 0.0 else if 1.0 < value then 1.0 else value

/-- The channel of an intensity.  Intensities outside the unit interval count as its ends, and NaN
counts as zero. -/
def channel (intensity : Float) : UInt8 :=
  Rounding.nearestByte (clampUnit intensity * 255.0)

/-- The gray with one value on all channels. -/
def gray (value : UInt8) : Color :=
  ⟨value, value, value⟩

/-- The color of the first three intensities; nothing when there are fewer. -/
def ofIntensities : List Float → Option Color
  | red :: green :: blue :: _ => some ⟨channel red, channel green, channel blue⟩
  | _ => none

/-- The style rule that paints the background of the widget named `tag`. -/
def backgroundRule (tag : String) (color : Color) : String :=
  "#" ++ tag ++ " \x7bbackground-color: rgb(" ++ toString color.red.toNat ++ ", " ++
    toString color.green.toNat ++ ", " ++ toString color.blue.toNat ++ "); \x7d"

example : channel 0.5 = 128 ∧ channel 1.5 = 255 ∧ channel (-0.25) = 0 := by decide

end Color

end FigureForm
