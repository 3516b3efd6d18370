/-
# Variations

A variable face has axes along which its measures change.  A store holds adjustments of measures in
rows; each column of a row belongs to a region of the space of axes and counts as far as the region
has influence.  Faces are measured where every axis is at zero, its default: there a region has
full influence or none, so the adjustment by a row is a sum over the columns of some regions.

A part of the parser that stands in the place of an outside library (see `Font.Tables`).
-/

import FigureForm.Bisection
import FigureForm.Font.Reading

namespace FigureForm

open BigEndian Reading

/-- The version of all tables of variations. -/
def variationVersion : Nat := 0x10000

/-- At most as many axes have influence. -/
def axisLimit : Nat := 64

/-- The number of axes in an axis table; nothing for a face that does not vary. -/
def readAxisCount? (table : ByteArray) : Option Nat := do
  let version ← long? table 0
  let start ← word? table 4
  let count ← word? table 8
  if version = variationVersion ∧ count ≠ 0 ∧ start + 20 * count ≤ table.size then
    some (min count axisLimit)
  else none

/-- The part of an axis on which a region has influence, growing to the peak and shrinking behind
it. -/
structure AxisRange where
  start : Int
  peak : Int
  finish : Int

/-- Whether a range leaves its region full influence at zero.  A range with its peak there does,
and so do those that say nothing: ranges out of order, and ranges to both sides of zero. -/
def AxisRange.includesDefault (range : AxisRange) : Bool :=
  range.peak < range.start || range.finish < range.peak || range.peak == 0 ||
    (range.start < 0 && 0 < range.finish)

/-- A row of adjustments in a store. -/
structure VariationIndex where
  group : Nat
  row : Nat

/-- Regions with a range for each axis, and groups of rows of adjustments. -/
structure VariationStore where
  content : ByteArray
  groupCount : Nat
  rangesStart : Nat
  axisCount : Nat
  rangeCount : Nat

/-- A group of rows with a column for each of some regions.  The columns in front hold wide numbers
and the others narrow ones. -/
structure VariationGroup where
  rowsStart : Nat
  rowCount : Nat
  wideCount : Nat
  hasLongWords : Bool
  regions : List Nat

namespace VariationGroup

/-- The bytes of a number in a column. -/
def columnWidth (group : VariationGroup) (column : Nat) : Nat :=
  (if column < group.wideCount then 2 else 1) * if group.hasLongWords then 2 else 1

/-- How many bytes of a row lie in front of a column. -/
def columnStart (group : VariationGroup) (column : Nat) : Nat :=
  (column + min column group.wideCount) * if group.hasLongWords then 2 else 1

/-- The bytes of a row, which are counted by a number of two bytes. -/
def rowLength (group : VariationGroup) : Except Overflow Nat :=
  let narrow := group.wideCount + group.regions.length
  if wordLimit ≤ narrow then .error .addition
  else if !group.hasLongWords then .ok narrow
  else if wordLimit ≤ 2 * narrow then .error .multiplication
  else .ok (2 * narrow)

end VariationGroup

namespace VariationStore

/-- The store at a place of a table. -/
def read (table : ByteArray) (start : Nat) : Reading VariationStore := do
  let content ← suffix table start
  let format ← number table start 2
  guard (format = 1)
  let regionsStart ← number table (start + 2) 4
  let groupCount ← number table (start + 6) 2
  discard <| bytes table (start + 8) (4 * groupCount)
  let axisCount ← number table (start + regionsStart) 2
  let regionCount ← number table (start + regionsStart + 2) 2
  let rangeCount := regionCount * axisCount
  guard (rangeCount < wordLimit)
  discard <| bytes table (start + regionsStart + 4) (6 * rangeCount)
  return ⟨content, groupCount, regionsStart + 4, axisCount, rangeCount⟩

/-- The store of a table that tells behind its version where the store is. -/
def readOfTable (table : ByteArray) : Reading VariationStore := do
  let version ← number table 0 4
  guard (version = variationVersion)
  read table (← number table 4 4)

/-- The number of the range of a region on an axis, which has two bytes. -/
def rangeIndex (store : VariationStore) (region axis : Nat) : Except Overflow Nat :=
  let first := region * store.axisCount
  if wordLimit ≤ first then .error .multiplication
  else if wordLimit ≤ first + axis then .error .addition
  else .ok (first + axis)

/-- A range by its number. -/
def range? (store : VariationStore) (index : Nat) : Option AxisRange := do
  if store.rangeCount ≤ index then none
  let place := store.rangesStart + 6 * index
  return ⟨← signedWord? store.content place, ← signedWord? store.content (place + 2),
    ← signedWord? store.content (place + 4)⟩

/-- Whether a region has influence where each of these axes is at zero.  The first axis on which it
has none decides, also one without a range. -/
def includesDefault (store : VariationStore) (region : Nat) :
    (axes : List Nat) → Except Overflow Bool
  | [] => .ok true
  | axis :: axes => do
    let index ← store.rangeIndex region axis
    if (store.range? index).any AxisRange.includesDefault then store.includesDefault region axes
    else return false

/-- A group of rows. -/
def group (store : VariationStore) (index : Nat) : Reading VariationGroup := do
  guard (index < store.groupCount)
  let start ← number store.content (8 + 4 * index) 4
  guard (start ≤ store.content.size)
  let rowCount ← number store.content start 2
  let wide ← number store.content (start + 2) 2
  let regionCount ← number store.content (start + 4) 2
  let regions ← (List.range regionCount).mapM fun column =>
    number store.content (start + 6 + 2 * column) 2
  return ⟨start + 6 + 2 * regionCount, rowCount, wide % 0x8000, 0x8000 ≤ wide, regions⟩

/-- The sum of the columns of a row whose regions have influence, when the row starts at a place.
There must be a region for each column of wide numbers. -/
def rowSum (store : VariationStore) (axes : Nat) (group : VariationGroup) (start : Nat) :
    Reading Float32 := do
  let columns ← group.regions.zipIdx.mapM fun (region, column) => do
    let value ← signedNumber store.content (start + group.columnStart column)
      (group.columnWidth column)
    let counts ← ofExcept (store.includesDefault region (List.range axes))
    return if counts then Float32.ofInt value else 0
  guard (group.wideCount ≤ group.regions.length)
  return columns.foldl (· + ·) 0

/-- The adjustment by a row at the default of all axes, of which there are `axes`. -/
def adjustment (store : VariationStore) (axes : Nat) (index : VariationIndex) :
    Reading Float32 := do
  let group ← store.group index.group
  guard (index.row < group.rowCount)
  let length ← ofExcept group.rowLength
  store.rowSum axes group (group.rowsStart + length * index.row)

end VariationStore

/-! ## Advances -/

/-- The adjustments of the advances of glyphs.  Where no list says which row belongs to a glyph, it
is the row of the first group that has the number of the glyph. -/
structure AdvanceVariations where
  content : ByteArray
  store : VariationStore
  indexStart : Nat

namespace AdvanceVariations

/-- The table of adjusted advances. -/
def read (content : ByteArray) : Reading AdvanceVariations := do
  let store ← VariationStore.readOfTable content
  let indexStart ← number content 8 4
  guard (20 ≤ content.size)
  return ⟨content, store, indexStart⟩

/-- The row for a glyph in a list that starts at a place.  Its last entry stands for all glyphs
behind it. -/
def listed? (content : ByteArray) (start glyph : Nat) : Option VariationIndex := do
  let format ← read? content start 1
  let packing ← read? content (start + 1) 1
  let countWidth := if format = 0 then 2 else 4
  let count ← read? content (start + 2) countWidth
  if count = 0 then none
  let width := packing / 16 % 4 + 1
  let entry ← read? content (start + 2 + countWidth + width * min glyph (count - 1)) width
  let rowLimit := 2 <<< (packing % 16)
  if wordLimit ≤ entry / rowLimit then none else some ⟨entry / rowLimit, entry % rowLimit⟩

/-- The row for a glyph. -/
def index? (variations : AdvanceVariations) (glyph : Nat) : Option VariationIndex :=
  if variations.indexStart = 0 then some ⟨0, glyph⟩
  else listed? variations.content variations.indexStart glyph

/-- The adjustment of the advance of a glyph. -/
def adjustment (variations : AdvanceVariations) (axes glyph : Nat) : Reading Float32 := do
  variations.store.adjustment axes (← ofOption (variations.index? glyph))

/-- An advance with its adjustment, rounded to the nearest whole number, halves upwards; nothing
when that does not fit two bytes without a sign. -/
def adjust? (advance : Nat) (adjustment : Float32) : Option Nat :=
  let rounded := (Float32.ofNat advance + (adjustment + 0.5)).toInt32.toInt
  if 0 ≤ rounded ∧ rounded < wordLimit then some rounded.toNat else none

end AdvanceVariations

/-! ## Measures of lines -/

/-- A measure of the system table that can vary. -/
inductive LineMeasure
  | ascender
  | descender
  | lineGap
  | windowAscender
  | windowDescender

/-- The tag under which the adjustment of a measure is found. -/
def LineMeasure.tag : LineMeasure → Nat
  | ascender => 0x68617363
  | descender => 0x68647363
  | lineGap => 0x686C6770
  | windowAscender => 0x68636C61
  | windowDescender => 0x68636C64

/-- The adjustments of measures, in a list that is sorted by their tags. -/
structure LineVariations where
  content : ByteArray
  store : VariationStore
  count : Nat

namespace LineVariations

/-- The table of adjusted measures. -/
def read (content : ByteArray) : Reading LineVariations := do
  let version ← number content 0 4
  let recordLength ← number content 6 2
  let count ← number content 8 2
  let start ← number content 10 2
  guard (version = variationVersion ∧ recordLength = 8 ∧ count ≠ 0 ∧ start ≠ 0)
  discard <| bytes content 12 (8 * count)
  return ⟨content, ← VariationStore.read content start, count⟩

/-- The row for a measure. -/
def index? (variations : LineVariations) (measure : LineMeasure) : Option VariationIndex := do
  let tagAt := fun place => long? variations.content (12 + 8 * place)
  let side := fun place => (tagAt place).map fun tag => compare tag measure.tag
  let place ← Bisection.findLast? side variations.count
  return ⟨← word? variations.content (16 + 8 * place), ← word? variations.content (18 + 8 * place)⟩

/-- The adjustment of a measure. -/
def adjustment (variations : LineVariations) (axes : Nat) (measure : LineMeasure) :
    Reading Float32 := do
  variations.store.adjustment axes (← ofOption (variations.index? measure))

/-- A measure with its adjustment, without the fraction; it stays as it is when the result does not
fit two bytes. -/
def adjust (value : Int) (adjustment : Float32) : Int :=
  let adjusted := (Float32.ofInt value + adjustment).toInt32.toInt
  if -0x8000 ≤ adjusted ∧ adjusted < 0x8000 then adjusted else value

end LineVariations

end FigureForm
