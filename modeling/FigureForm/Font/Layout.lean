/-
# Layout tables

The tables that tell which glyphs replace others and where they are placed.  No measure of a font
depends on their contents, so they are read only as far as it takes to see that each part has a
place in the file.

A part of the parser that stands in the place of an outside library (see `Font.Tables`).
-/

import FigureForm.Font.Variations

namespace FigureForm.Layout

open BigEndian Reading

/-- The version of definitions that can come with a store of variations. -/
def variableVersion : Nat := 0x10003

/-- The definitions of classes of glyphs: the store of variations that they end with. -/
def readDefinitions (table : ByteArray) : Reading VariationStore := do
  guard ((← number table 0 4) = variableVersion)
  let setsStart ← number table 12 2
  let storeStart ← number table 14 4
  if setsStart ≠ 0 ∧ setsStart ≤ table.size then discard (number table setsStart 2)
  guard (storeStart ≠ 0)
  VariationStore.read (← suffix table storeStart) 0

/-- A list of entries of a length, when the word at a place tells where it starts. -/
def readEntries (table : ByteArray) (place length : Nat) : Reading ByteArray := do
  let entries ← suffix table (← number table place 2)
  bytes entries 2 (length * (← number entries 0 2))

/-- The conditions under which other rules hold: their list. -/
def readConditions (table : ByteArray) : Reading ByteArray := do
  guard ((← number table 0 2) = 1)
  bytes table 8 (8 * (← number table 4 4))

/-- Rules of replacement or of placement: lists of scripts, of features and of look-ups, and the
conditions behind them. -/
def readRules (table : ByteArray) : Reading ByteArray := do
  guard ((← number table 0 2) = 1)
  let hasConditions := 1 ≤ (← number table 2 2)
  discard <| readEntries table 4 6
  discard <| readEntries table 6 6
  discard <| readEntries table 8 2
  guard hasConditions
  let start ← number table 10 4
  guard (start ≠ 0)
  readConditions (← suffix table start)

end FigureForm.Layout
