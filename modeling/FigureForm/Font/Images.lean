/-
# Tables of images

The tables that draw glyphs as images, or as layers of colors.  No measure of a font depends on
their contents, so they are read only as far as it takes to see that each part has a place in the
file.

A part of the parser that stands in the place of an outside library (see `Font.Tables`).
-/

import FigureForm.Font.Variations

namespace FigureForm.Images

open BigEndian Reading

/-- Images for so many glyphs: the places of the sets of images, one for each size. -/
def readSizes (glyphCount : Nat) (table : ByteArray) : Reading ByteArray := do
  guard (glyphCount + 1 < wordLimit ∧ (← number table 0 2) = 1)
  let count ← number table 4 4
  guard (count ≠ 0)
  bytes table 8 (4 * count)

/-- Palettes: the colors of all of them. -/
def readPalettes (table : ByteArray) : Reading ByteArray := do
  guard ((← number table 0 2) ≤ 1)
  let paletteCount ← number table 4 2
  let colorCount ← number table 6 2
  let colors ← suffix table (← number table 8 4)
  guard (paletteCount ≠ 0)
  discard <| bytes table 12 (2 * paletteCount)
  bytes colors 0 (4 * colorCount)

/-- Entries of a length behind their count, which stands at a place. -/
def readCounted (table : ByteArray) (place length : Nat) : Reading ByteArray := do
  bytes table (place + 4) (length * (← number table place 4))

/-- Reads a part whose place is told at another place; a zero there stands for no part. -/
def readTold (table : ByteArray) (place : Nat) (part : Nat → Reading Unit) : Reading Unit := do
  let start ← number table place 4
  if start ≠ 0 then part start

/-- Layers of colors.  Plain layers come alone in the first version; the second has painted glyphs,
painted layers, boxes that clip them and a store of variations behind these. -/
def readLayers (table : ByteArray) : Reading Unit := do
  let version ← number table 0 2
  guard (version ≤ 1)
  let glyphs ← suffix table (← number table 4 4)
  discard <| bytes glyphs 0 (6 * (← number table 2 2))
  let layers ← suffix table (← number table 8 4)
  discard <| bytes layers 0 (4 * (← number table 12 2))
  guard (version = 1)
  discard <| bytes table 14 20
  let paintedStart ← number table 14 4
  guard (paintedStart ≤ table.size)
  discard <| readCounted table paintedStart 6
  readTold table 18 fun start => do
    guard (start ≤ table.size)
    discard <| readCounted table start 4
  readTold table 22 fun start => do
    discard <| readCounted (← suffix table start) 1 7
  readTold table 30 fun start => do
    discard <| VariationStore.read (← suffix table start) 0

end FigureForm.Images
