/-
# Fonts and their measures

A font is named by its family and point size.  Positions counted in characters need two numbers of
it: how far the letter `x` advances and how far apart its lines stand.  `approximate` supplies them
when the font cannot be measured.
-/

import FigureForm.Overflow
import FigureForm.Rounding

namespace FigureForm

/-- A font as a form names it. -/
structure FontSpec where
  family : String
  pointSize : UInt32
  deriving DecidableEq, Repr

/-- The measures of a font in whole pixels. -/
structure FontMetrics where
  xAdvance : Float
  lineSpacing : Float

/-- Why a font could not be measured. -/
inductive FontFault
  | notFound (font : FontSpec)
  | missingGlyph (family : String) (glyph : Char)
  | invalidData (reason : String)
  | overflow (cause : Overflow)
  deriving DecidableEq, Repr

/-- What is said about a font that could not be measured. -/
def FontFault.message : FontFault → String
  | notFound font =>
    "Font not found: " ++ font.family ++ " " ++ toString font.pointSize.toNat ++ "pt"
  | missingGlyph family glyph =>
    "Font '" ++ family ++ "' has no glyph for '" ++ String.singleton glyph ++ "'"
  | invalidData reason => "Invalid font data: " ++ reason
  | overflow cause => cause.message

namespace FontSpec

/-- Pixels in a typographic point at 96 dots per inch. -/
def pixelsPerPoint : Float :=
  96.0 / 72.0

/-- The font of forms that name none. -/
def standard : FontSpec :=
  ⟨"MS Sans Serif", 8⟩

/-- The nominal size of a font in pixels. -/
def pixelSize (font : FontSpec) : Float :=
  Float.ofNat font.pointSize.toNat * pixelsPerPoint

end FontSpec

namespace FontMetrics

/-- The nearest whole number, but at least one. -/
def wholePixels (value : Float) : Float :=
  let rounded := Rounding.nearest value
  if rounded < 1.0 then 1.0 else rounded

/-- Rough measures of a proportional face of the given size. -/
def approximate (pointSize : UInt32) : FontMetrics :=
  let pixels := Float.ofNat pointSize.toNat * FontSpec.pixelsPerPoint
  ⟨wholePixels (pixels * 0.5), wholePixels (pixels * 1.2)⟩

end FontMetrics

end FigureForm
