/-
# Outlines

The points of outlines are counted here and not read: variations number the points of a glyph, and
behind them come points that stand for its measures.

A part of the parser that stands in the place of an outside library (see `Font.Tables`).
-/

import FigureForm.Bytes.BigEndian

namespace FigureForm

open BigEndian

/-- A table of outlines and the places where they begin. -/
structure OutlineTable where
  content : ByteArray
  places : ByteArray
  placeWidth : Nat
  placeCount : Nat

namespace OutlineTable

/-- The table for as many glyphs as there are places for.  One place more than glyphs is needed, as
an outline ends where the next one begins. -/
def ofBytes? (content places : ByteArray) (placeWidth glyphCount : Nat) : Option OutlineTable :=
  let present := places.size / placeWidth
  if wordLimit ≤ present then none
  else some ⟨content, places, placeWidth, min present (min (glyphCount + 1) (wordLimit - 1))⟩

/-- Where the outline of a glyph begins.  Places of two bytes are counted in steps of two. -/
def start? (table : OutlineTable) (glyph : Nat) : Option Nat :=
  (read? table.places (table.placeWidth * glyph) table.placeWidth).map fun place =>
    if table.placeWidth = 2 then 2 * place else place

/-- The outline of a glyph.  It is never empty. -/
def outline? (table : OutlineTable) (glyph : Nat) : Option ByteArray := do
  if table.placeCount ≤ glyph + 1 then none
  let start ← table.start? glyph
  let finish ← table.start? (glyph + 1)
  if finish ≤ start ∨ table.content.size < finish then none
  return table.content.extract start finish

/-! ## Outlines of contours -/

/-- The bytes of a coordinate of a point with these flags, of which one makes it short, and another
tells that it does not change. -/
def coordinateWidth (flags shortFlag sameFlag : Nat) : Nat :=
  if flags.testBit shortFlag then 1 else if flags.testBit sameFlag then 0 else 2

/-- The bytes of both coordinates of a point with these flags. -/
def pointWidth (flags : Nat) : Nat :=
  coordinateWidth flags 1 4 + coordinateWidth flags 2 5

/-- Where the coordinates of points end that begin behind the flags at a place.  Flags can be
followed by the number of further points that share them. -/
def coordinatesEnd? (outline : ByteArray) (place left length : Nat) : Option Nat :=
  if 0 < left then
    match read? outline place 1 with
    | none => none
    | some flags =>
      if flags.testBit 3 then
        match read? outline (place + 1) 1 with
        | none => none
        | some more =>
          if left ≤ more then none
          else
            coordinatesEnd? outline (place + 2) (left - (more + 1))
              (length + (more + 1) * pointWidth flags)
      else coordinatesEnd? outline (place + 1) (left - 1) (length + pointWidth flags)
  else some (place + length)
termination_by left
decreasing_by all_goals omega

/-- The number of points of so many contours.  A single point is no outline. -/
def contourPoints? (outline : ByteArray) (contours : Nat) : Option Nat := do
  let last ← word? outline (8 + 2 * contours)
  if last = wordLimit - 1 then none
  if last = 0 then return 0
  let instructions ← word? outline (10 + 2 * contours)
  let finish ← coordinatesEnd? outline (12 + 2 * contours + instructions) (last + 1) 0
  if finish ≤ outline.size then some (last + 1) else none

/-! ## Outlines of components -/

/-- The bytes of a component with these flags. -/
def componentLength (flags : Nat) : Nat :=
  4 + (if !flags.testBit 1 then 0 else if flags.testBit 0 then 4 else 2) +
    (if flags.testBit 7 then 8 else if flags.testBit 6 then 4 else if flags.testBit 3 then 2 else 0)

theorem le_componentLength (flags : Nat) : 4 ≤ componentLength flags := by
  unfold componentLength
  omega

/-- The number of components from a place on. -/
def componentCount (outline : ByteArray) (place : Nat) : Nat :=
  let flags := (word? outline place).getD 0
  if fits : place + componentLength flags ≤ outline.size then
    if flags.testBit 5 then componentCount outline (place + componentLength flags) + 1 else 1
  else 0
termination_by outline.size - place
decreasing_by
  have := le_componentLength flags
  grind

/-! ## Points -/

/-- The number of points of an outline, whose components count as points. -/
def points? (outline : ByteArray) : Option Nat := do
  let contours ← signedWord? outline 0
  if 0 < contours then contourPoints? outline contours.toNat
  else if contours < 0 then some (componentCount outline 10)
  else none

/-- The number of points of a glyph; zero without a legible outline. -/
def pointCount (table : OutlineTable) (glyph : Nat) : Nat :=
  ((table.outline? glyph).bind points?).getD 0

end OutlineTable

end FigureForm
