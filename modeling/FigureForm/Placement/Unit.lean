/-
# Units of position

The unit systems in which a figure may give positions, and the pixels of one unit along each axis.
Only characters depend on the font.
-/

import FigureForm.Font.Metrics

namespace FigureForm

/-- A unit of position. -/
inductive LengthUnit
  | characters
  | pixels
  | inches
  | centimeters
  | points
  deriving DecidableEq, Repr

/-- Pixels in one unit along each axis. -/
structure Scale where
  horizontal : Float
  vertical : Float

/-- The same scale along both axes. -/
def Scale.uniform (factor : Float) : Scale :=
  ⟨factor, factor⟩

namespace LengthUnit

/-- The word for each unit. -/
def word : LengthUnit → String
  | characters => "characters"
  | pixels => "pixels"
  | inches => "inches"
  | centimeters => "centimeters"
  | points => "points"

/-- Every unit. -/
def all : List LengthUnit :=
  [characters, pixels, inches, centimeters, points]

/-- The unit that a word names. -/
def ofWord? (word : String) : Option LengthUnit :=
  all.find? fun unit => unit.word == word

/-- Pixels in one unit, with the given measures of the font. -/
def scale (metrics : FontMetrics) : LengthUnit → Scale
  | characters => ⟨metrics.xAdvance, metrics.lineSpacing⟩
  | pixels => .uniform 1.0
  | inches => .uniform 96.0
  | centimeters => .uniform 243.84
  | points => .uniform FontSpec.pixelsPerPoint

theorem ofWord?_word (unit : LengthUnit) : ofWord? unit.word = some unit := by
  cases unit <;> decide

/-- A word names the unit whose word it is. -/
theorem ofWord?_eq_some_iff {word : String} {unit : LengthUnit} :
    ofWord? word = some unit ↔ unit.word = word := by
  constructor
  · intro found
    simpa using List.find?_some found
  · intro named
    rw [← named, ofWord?_word]

/-- Only the scale of characters depends on the font. -/
theorem scale_eq {unit : LengthUnit} (notCharacters : unit ≠ .characters)
    (metrics others : FontMetrics) : unit.scale metrics = unit.scale others := by
  cases unit with
  | characters => exact absurd rfl notCharacters
  | _ => rfl

end LengthUnit

end FigureForm
