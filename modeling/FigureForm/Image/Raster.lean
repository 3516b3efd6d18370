/-
# Rasters

Rectangular images of pixels with four byte channels, stored row by row.  A raster carries the fact
that it has a pixel for every place.
-/

namespace FigureForm

/-- A pixel with its opacity. -/
structure Pixel where
  red : UInt8
  green : UInt8
  blue : UInt8
  alpha : UInt8
  deriving DecidableEq, Repr

namespace Pixel

/-- The pixel that shows nothing. -/
def transparent : Pixel :=
  ⟨0, 0, 0, 0⟩

instance : Inhabited Pixel :=
  ⟨transparent⟩

/-- The channels in storage order. -/
def bytes (pixel : Pixel) : List UInt8 :=
  [pixel.red, pixel.green, pixel.blue, pixel.alpha]

end Pixel

/-- An image of pixels. -/
structure Raster where
  width : Nat
  height : Nat
  pixels : Array Pixel
  size_pixels : pixels.size = width * height
  deriving DecidableEq

namespace Raster

/-- The image without pixels. -/
def empty : Raster :=
  ⟨0, 0, #[], rfl⟩

/-- The image whose pixel at column `x` and row `y` is `color x y`. -/
def ofColors (width height : Nat) (color : Nat → Nat → Pixel) : Raster where
  width := width
  height := height
  pixels := Array.ofFn fun place : Fin (width * height) => color (place % width) (place / width)
  size_pixels := Array.size_ofFn

/-- The image with these dimensions and pixels, if the pixels are as many as they should be. -/
def ofPixels? (width height : Nat) (pixels : Array Pixel) : Option Raster :=
  if h : pixels.size = width * height then some ⟨width, height, pixels, h⟩ else none

/-- The pixel at column `x` and row `y`; nothing outside the image. -/
def pixel? (raster : Raster) (x y : Nat) : Option Pixel :=
  if x < raster.width ∧ y < raster.height then raster.pixels[y * raster.width + x]? else none

/-- Whether the image has a pixel. -/
def hasPixels (raster : Raster) : Bool :=
  0 < raster.width && 0 < raster.height

/-- The channels of all pixels in storage order. -/
def bytes (raster : Raster) : List UInt8 :=
  raster.pixels.toList.flatMap Pixel.bytes

end Raster

end FigureForm
