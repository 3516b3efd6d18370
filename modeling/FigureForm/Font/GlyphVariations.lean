/-
# Variations of glyphs

Where a variable face has no table for its advances, they follow the variations of its outlines.
These move the points of a glyph in tuples, each with a region of influence; behind the points of
the outline come four that stand for measures, and the second of them moves with the advance.

A part of the parser that stands in the place of an outside library (see `Font.Tables`).
-/

import FigureForm.Font.Outlines
import FigureForm.Font.Variations

namespace FigureForm

open BigEndian Reading

/-- Moves of points of a glyph: all horizontal ones in front of the vertical ones.  They are for all
points, or for listed ones; then the list tells how many points to skip in front of each. -/
structure PointMoves where
  skips : Option (List Nat)
  moves : List Int

namespace PointMoves

/-- The place of a point among those listed.  All points behind the last one follow on. -/
def rank? : (skips : List Nat) → (point : Nat) → Option Nat
  | [], point => some point
  | skip :: skips, point =>
    if point < skip then none
    else if point = skip then some 0
    else (rank? skips (point - skip - 1)).map (· + 1)

/-- The horizontal move of one of so many points; nothing without a vertical move to it. -/
def horizontal? (tuple : PointMoves) (pointCount point : Nat) : Option Int := do
  let rank ← match tuple.skips with
    | some skips => rank? skips point
    | none => some point
  let moved := match tuple.skips with
    | some skips => skips.length
    | none => pointCount
  if moved + rank < tuple.moves.length then tuple.moves[rank]? else none

/-! ## Packed numbers -/

/-- Runs of as many numbers as `left` from a place on, and where they end. -/
def readRuns? (data : ByteArray) (place left : Nat) : Option (List Nat × Nat) :=
  if 0 < left then
    match read? data place 1 with
    | none => none
    | some control =>
      let count := control % 128 + 1
      let width := if 128 ≤ control then 2 else 1
      if left < count then none
      else do
        let numbers ← (List.range count).mapM fun index =>
          read? data (place + 1 + width * index) width
        let (others, finish) ← readRuns? data (place + 1 + width * count) (left - count)
        return (numbers ++ others, finish)
  else some ([], place)
termination_by left
decreasing_by omega

/-- The list of points at a place, which is missing where it is empty, and where it ends.  It holds
the distance of each point from the one in front of it, which is one at least. -/
def readSkips? (data : ByteArray) (place : Nat) : Option (Option (List Nat) × Nat) := do
  let first ← read? data place 1
  let (count, start) ←
    if first < 128 then some (first, place + 1)
    else (read? data (place + 1) 1).map fun second => ((first - 128) * 256 + second, place + 2)
  match ← readRuns? data start count with
  | ([], finish) => return (none, finish)
  | (number :: numbers, finish) => return (some (number :: numbers.map (· - 1)), finish)

/-- Runs of moves from a place on: of zeros, of wide numbers or of narrow ones.  A run that is cut
off is the last. -/
def readMoves (data : ByteArray) (place : Nat) : List Int :=
  if place < data.size then
    let control := (read? data place 1).getD 0
    let count := control % 64 + 1
    if control.testBit 7 then List.replicate count 0 ++ readMoves data (place + 1)
    else
      let width := if control.testBit 6 then 2 else 1
      let moves := (List.range count).filterMap fun index =>
        readSigned? data (place + 1 + width * index) width
      moves ++ readMoves data (place + 1 + width * count)
  else []
termination_by data.size - place

end PointMoves

/-- A table of variations of glyphs. -/
structure GlyphVariations where
  content : ByteArray
  axisCount : Nat
  peaksStart : Nat
  peakCount : Nat
  glyphCount : Nat
  placeWidth : Nat
  dataStart : Nat

namespace GlyphVariations

/-- The table of variations of glyphs. -/
def ofBytes? (content : ByteArray) : Option GlyphVariations := do
  let version ← long? content 0
  let axisCount ← word? content 4
  let peakCount := (← word? content 6) * axisCount
  let peaksStart ← long? content 8
  let glyphCount ← word? content 12
  let placeWidth := if (← word? content 14).testBit 0 then 4 else 2
  let dataStart ← long? content 16
  if version = variationVersion ∧ axisCount ≠ 0 ∧ peakCount < wordLimit ∧
      peaksStart + 2 * peakCount ≤ content.size ∧ dataStart ≤ content.size ∧
      glyphCount + 1 < wordLimit ∧ 20 + placeWidth * (glyphCount + 1) ≤ content.size then
    some ⟨content, axisCount, peaksStart, peakCount, glyphCount, placeWidth, dataStart⟩
  else none

/-- Where the variations of a glyph begin.  Places of two bytes are counted in steps of two. -/
def start? (table : GlyphVariations) (glyph : Nat) : Option Nat :=
  (read? table.content (20 + table.placeWidth * glyph) table.placeWidth).map fun place =>
    table.dataStart + if table.placeWidth = 2 then 2 * place else place

/-- The bytes of the variations of a glyph. -/
def data? (table : GlyphVariations) (glyph : Nat) : Option ByteArray := do
  if table.glyphCount ≤ glyph then none
  let start ← table.start? glyph
  let finish ← table.start? (glyph + 1)
  if start = finish then return .empty
  if finish < start ∨ table.content.size < finish then none
  return table.content.extract start finish

/-- The numbers with a sign for all axes at a place. -/
def axisNumbers? (table : GlyphVariations) (data : ByteArray) (place : Nat) : Option (List Int) :=
  (List.range table.axisCount).mapM fun axis => signedWord? data (place + 2 * axis)

/-- The peaks of a region: at a place, or in the list that all glyphs share. -/
def peaks? (table : GlyphVariations) (data : ByteArray) (place packing : Nat) :
    Option (List Int) := do
  let index := packing % 0x1000 * table.axisCount
  if packing.testBit 15 then table.axisNumbers? data place
  else if table.peakCount < index + table.axisCount then none
  else table.axisNumbers? table.content (table.peaksStart + 2 * index)

/-- The region of a tuple.  It reaches from zero to its peaks, or it has bounds of its own. -/
inductive TupleRegion
  | ofPeaks (peaks : List Int)
  | ofRanges (ranges : List AxisRange)

/-- Whether a region with bounds has full influence at the default.  Its axes are looked at in
turn, up to the first whose range does not reach zero.  Where a range ends or starts at zero the
influence vanishes, and the distance from its end to its peak must fit two bytes with a sign. -/
def rangesIncludeDefault : (ranges : List AxisRange) → Except Overflow Bool
  | [] => .ok true
  | range :: ranges =>
    if range.includesDefault then rangesIncludeDefault ranges
    else if 0 < range.start ∨ range.finish < 0 then .ok false
    else if 0x8000 ≤ range.finish - range.peak then .error .subtraction
    else (rangesIncludeDefault ranges).map fun _ => false

/-- Whether a region has full influence at the default. -/
def TupleRegion.includesDefault : (region : TupleRegion) → Except Overflow Bool
  | ofPeaks peaks => .ok (peaks.all (· == 0))
  | ofRanges ranges => rangesIncludeDefault ranges

/-- The region of the tuple at a place, and where the next tuple begins. -/
def region? (table : GlyphVariations) (data : ByteArray) (place : Nat) :
    Option (TupleRegion × Nat) := do
  let packing ← word? data (place + 2)
  let peaks ← table.peaks? data (place + 4) packing
  let width := 2 * table.axisCount
  let boundsStart := place + 4 + if packing.testBit 15 then width else 0
  if packing.testBit 14 then
    let starts ← table.axisNumbers? data boundsStart
    let finishes ← table.axisNumbers? data (boundsStart + width)
    let ranges := (starts.zip (peaks.zip finishes)).map fun (start, peak, finish) =>
      AxisRange.mk start peak finish
    return (.ofRanges ranges, boundsStart + 2 * width)
  else return (.ofPeaks peaks, boundsStart)

/-- The moves of a tuple between two places, behind its list of points if it has its own. -/
def moves? (data : ByteArray) (shared : Option (List Nat)) (hasOwnPoints : Bool)
    (start finish : Nat) : Option PointMoves := do
  let (skips, start) ←
    if hasOwnPoints then PointMoves.readSkips? data start else some (shared, start)
  if finish < start ∨ data.size < finish then none
  return ⟨skips, PointMoves.readMoves (data.extract start finish) 0⟩

/-- The tuples from a place on that have influence at the default, out of `count`.  Their moves
stand one behind the other from another place on. -/
def tuplesFrom (table : GlyphVariations) (data : ByteArray) (shared : Option (List Nat)) :
    (count place movesStart : Nat) → Reading (List PointMoves)
  | 0, _, _ => return []
  | count + 1, place, movesStart => do
    let finish := movesStart + (← ofOption (word? data place))
    let hasOwnPoints := (← ofOption (word? data (place + 2))).testBit 13
    let (region, next) ← ofOption (table.region? data place)
    if ← ofExcept region.includesDefault then
      let moves ← ofOption (moves? data shared hasOwnPoints movesStart finish)
      return moves :: (← tuplesFrom table data shared count next finish)
    else tuplesFrom table data shared count next finish

/-- At most as many tuples vary a glyph. -/
def tupleLimit : Nat := 32

/-- The tuples of a glyph that have influence at the default. -/
def tuples (table : GlyphVariations) (glyph : Nat) : Reading (List PointMoves) := do
  let data ← ofOption (table.data? glyph)
  if data.size = 0 then return []
  let packing ← ofOption (word? data 0)
  let movesStart ← ofOption (word? data 2)
  let count := packing % 0x1000
  guard (0 < count ∧ count ≤ tupleLimit ∧ movesStart ≤ data.size)
  let (shared, start) ← ofOption
    (if packing.testBit 15 then PointMoves.readSkips? data movesStart else some (none, movesStart))
  table.tuplesFrom data shared count 4 start

/-- The adjustment of the advance of a glyph whose outline has so many points, when there are as
many axes as the table is for. -/
def adjustment (table : GlyphVariations) (axes glyph points : Nat) : Reading Float32 := do
  guard (axes = table.axisCount ∧ points + 4 < wordLimit)
  let tuples ← table.tuples glyph
  let moves := tuples.map fun tuple => (tuple.horizontal? (points + 4) (points + 1)).getD 0
  return Float32.ofInt (moves.foldl (· + ·) 0)

end GlyphVariations

end FigureForm
