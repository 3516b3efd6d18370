/-
# Icons of actions

The icon of an action is given as a matrix with one plane for each color channel.  A pixel with a
channel that is not a number is transparent, and all others are opaque.
-/

import FigureForm.Color
import FigureForm.Image.Raster
import FigureForm.Record.Value

namespace FigureForm

/-- Why a field holds no icon. -/
inductive IconFault
  | notMatrix (kindName : String)
  | wrongPlanes (planes : Nat)
  | tooLarge (rows columns : Nat)
  deriving DecidableEq, Repr

/-- What is said about a field that holds no icon. -/
def IconFault.message : IconFault → String
  | notMatrix kindName =>
    "icon data is a " ++ kindName ++ ", expected a rows x cols x 3 matrix"
  | wrongPlanes planes => "icon data has " ++ toString planes ++ " color planes, expected 3"
  | tooLarge rows columns =>
    "icon of " ++ toString rows ++ "x" ++ toString columns ++ " pixels is too large"

namespace Icon

/-- Icons are narrower and lower than this. -/
def sideLimit : Nat := 0x100000000

/-- The pixel of three intensities. -/
def pixelOfIntensities (red green blue : Float) : Pixel :=
  if red.isNaN || green.isNaN || blue.isNaN then .transparent
  else ⟨Color.channel red, Color.channel green, Color.channel blue, 255⟩

/-- The pixel of a matrix at a row and column; one without entries shows nothing. -/
def pixelAt (matrix : Matrix) (row column : Nat) : Pixel :=
  match matrix.get? row column 0, matrix.get? row column 1, matrix.get? row column 2 with
  | some red, some green, some blue => pixelOfIntensities red green blue
  | _, _, _ => .transparent

/-- The icon of a matrix with three planes, as wide as it has columns and as high as it has rows. -/
def ofMatrix (matrix : Matrix) : Except IconFault Raster :=
  if matrix.planes ≠ 3 then .error (.wrongPlanes matrix.planes)
  else if sideLimit ≤ matrix.columns ∨ sideLimit ≤ matrix.rows then
    .error (.tooLarge matrix.rows matrix.columns)
  else .ok (Raster.ofColors matrix.columns matrix.rows fun x y => pixelAt matrix y x)

/-- The icon in a field; an absent field is an icon without pixels. -/
def ofField : FieldValue → Except IconFault Raster
  | .absent => .ok Raster.empty
  | .matrix matrix => ofMatrix matrix
  | other => .error (.notMatrix other.kindName)

end Icon

end FigureForm
