/-
# Measuring a face

The advance of the letter `x` and the line spacing of a face, read from its tables and scaled to
whole pixels.  Vertical measures come from the horizontal header, or from the system table where
that one asks for it or has no value.  A variable face is measured at the default of its axes.

`lineUnits` and `metrics` are the program's own rules; what they ask of a face is answered by a
parser that stands in the place of an outside library (see `Font.Tables`).
-/

import FigureForm.Font.CharacterMap
import FigureForm.Font.CompactOutlines
import FigureForm.Font.GlyphVariations
import FigureForm.Font.Images
import FigureForm.Font.Layout
import FigureForm.Font.Metrics
import FigureForm.Font.SystemTable
import FigureForm.Font.Tables

namespace FigureForm

/-- What a face tells of its units, and of how many bytes the places of its outlines are. -/
structure FaceHeader where
  unitsPerEm : Nat
  placeWidth : Nat

/-- What a face tells of the measures of its lines, and how many advances it lists. -/
structure HorizontalHeader where
  ascender : Int
  descender : Int
  lineGap : Int
  metricCount : Nat

/-- The axes of a variable face and the adjustments along them. -/
structure FaceVariations where
  axes : Nat
  advances : Option AdvanceVariations
  lines : Option LineVariations
  glyphs : Option GlyphVariations
  outlines : Option OutlineTable

/-- What is known of a face. -/
structure Face where
  unitsPerEm : Nat
  lines : HorizontalHeader
  glyphCount : Nat
  characterMap : Option ByteArray
  advances : Option ByteArray
  systemTable : Option SystemTable
  variations : Option FaceVariations

namespace Face

open BigEndian Reading

/-- The contents of a header table. -/
def readHeader? (table : ByteArray) : Option FaceHeader := do
  let unitsPerEm ← word? table 18
  let placeFormat ← word? table 50
  if 54 ≤ table.size ∧ 16 ≤ unitsPerEm ∧ unitsPerEm ≤ 16384 ∧ placeFormat ≤ 1 then
    some ⟨unitsPerEm, if placeFormat = 0 then 2 else 4⟩
  else none

/-- The contents of a horizontal header. -/
def readHorizontalHeader? (table : ByteArray) : Option HorizontalHeader := do
  return ⟨← signedWord? table 4, ← signedWord? table 6, ← signedWord? table 8, ← word? table 34⟩

/-- The number of glyphs in a profile table. -/
def readProfile? (table : ByteArray) : Option Nat := do
  let version ← long? table 0
  let glyphCount ← word? table 4
  if (version = 0x5000 ∨ version = 0x10000) ∧ 0 < glyphCount then some glyphCount else none

/-- The outlines of so many glyphs, with places of a width. -/
def readOutlines? (file : FontFile) (placeWidth glyphCount : Nat) : Option OutlineTable := do
  let content ← file.table? 0x676C7966
  let places ← file.table? 0x6C6F6361
  OutlineTable.ofBytes? content places placeWidth glyphCount

/-- The adjustments of advances, and those of measures of lines. -/
def readAdjustments (file : FontFile) :
    Except Overflow (Option AdvanceVariations × Option LineVariations) := do
  return (← file.read 0x48564152 AdvanceVariations.read, ← file.read 0x4D564152 LineVariations.read)

/-- The variations of a face of so many glyphs; nothing for one without axes, whatever adjustments
it lists. -/
def variations? (file : FontFile) (placeWidth glyphCount : Nat)
    (advances : Option AdvanceVariations) (lines : Option LineVariations) :
    Option FaceVariations := do
  let axes ← (file.table? 0x66766172).bind readAxisCount?
  return {
    axes, advances, lines
    glyphs := (file.table? 0x67766172).bind GlyphVariations.ofBytes?
    outlines := readOutlines? file placeWidth glyphCount }

/-- Looks at the tables on which no measure depends, since a part of them may have no place. -/
def checkOtherTables (file : FontFile) (glyphCount : Nat) : Except Overflow Unit := do
  if (← file.read 0x4350414C Images.readPalettes).isSome then
    discard <| file.read 0x434F4C52 Images.readLayers
  discard <| file.read 0x43464620 CompactOutlines.read
  discard <| file.read 0x73626978 (Images.readSizes glyphCount)
  discard <| file.read 0x47444546 Layout.readDefinitions
  discard <| file.read 0x47504F53 Layout.readRules
  discard <| file.read 0x47535542 Layout.readRules
  discard <| file.read 0x43464632 CompactOutlines.readVariable
  discard <| file.read 0x56564152 VariationStore.readOfTable

/-- The face with an index in a file. -/
def read (content : ByteArray) (index : Nat) : Except FaceFault Face := do
  let file ← FontFile.ofBytes content index
  let header ← FontFile.orElseFault ((file.table? 0x68656164).bind readHeader?) .noHeader
  let lines ←
    FontFile.orElseFault ((file.table? 0x68686561).bind readHorizontalHeader?) .noHorizontalHeader
  let glyphCount ← FontFile.orElseFault ((file.table? 0x6D617870).bind readProfile?) .noProfile
  (checkOtherTables file glyphCount).mapError .overflow
  let (advances, lineMeasures) ← (readAdjustments file).mapError .overflow
  return {
    unitsPerEm := header.unitsPerEm
    lines, glyphCount
    characterMap := file.table? 0x636D6170
    advances := file.table? 0x686D7478
    systemTable := (file.table? 0x4F532F32).bind SystemTable.ofBytes?
    variations := variations? file header.placeWidth glyphCount advances lineMeasures }

/-- The glyph of a character. -/
def glyph (face : Face) (c : Char) : Except Overflow (Option Nat) :=
  match face.characterMap with
  | some table => CharacterMap.glyph table c.toNat
  | none => .ok none

/-! ## Advances -/

/-- The advance of a glyph in its table.  Glyphs behind the last advance have that one. -/
def listedAdvance? (face : Face) (glyph : Nat) : Option Nat := do
  let table ← face.advances
  let count := face.lines.metricCount
  if count = 0 ∨ table.size < 4 * count then none
  if max count face.glyphCount ≤ glyph then none
  word? table (4 * min glyph (count - 1))

/-- The adjustment of the advance of a glyph by the move of its outline. -/
def outlineAdjustment (variations : FaceVariations) (glyph : Nat) : Reading Float32 := do
  let outlines ← ofOption variations.outlines
  let glyphs ← ofOption variations.glyphs
  glyphs.adjustment variations.axes glyph (outlines.pointCount glyph)

/-- The adjustment of the advance of a glyph.  Outlines count only where there is no table for
advances. -/
def advanceAdjustment (face : Face) (glyph : Nat) : Reading Float32 := do
  let variations ← ofOption face.variations
  match variations.advances with
  | some advances => advances.adjustment variations.axes glyph
  | none => outlineAdjustment variations glyph

/-- The advance of a glyph in font units.  One that is not listed or cannot be adjusted is zero. -/
def advance (face : Face) (glyph : Nat) : Except Overflow Nat :=
  match face.listedAdvance? glyph with
  | none => .ok 0
  | some listed => do
    match ← (face.advanceAdjustment glyph).run with
    | none => return listed
    | some adjustment => return (AdvanceVariations.adjust? listed adjustment).getD 0

/-! ## Lines -/

/-- The adjustment of a measure. -/
def lineAdjustment (face : Face) (measure : LineMeasure) : Reading Float32 := do
  let variations ← ofOption face.variations
  let lines ← ofOption variations.lines
  lines.adjustment variations.axes measure

/-- A measure of the system table with its adjustment.  Those of the horizontal header do not
vary. -/
def adjusted (face : Face) (measure : LineMeasure) (value : Int) : Except Overflow Int := do
  match ← (face.lineAdjustment measure).run with
  | some adjustment => return LineVariations.adjust value adjustment
  | none => return value

/-- How far letters rise above the line. -/
def ascender (face : Face) : Except Overflow Int :=
  match face.systemTable with
  | none => .ok face.lines.ascender
  | some system =>
    if system.prefersTypographic then face.adjusted .ascender system.ascender
    else if face.lines.ascender ≠ 0 then .ok face.lines.ascender
    else if system.ascender ≠ 0 then face.adjusted .ascender system.ascender
    else face.adjusted .windowAscender system.windowAscender

/-- Where letters end below the line, which is negative. -/
def descender (face : Face) : Except Overflow Int :=
  match face.systemTable with
  | none => .ok face.lines.descender
  | some system =>
    if system.prefersTypographic then face.adjusted .descender system.descender
    else if face.lines.descender ≠ 0 then .ok face.lines.descender
    else if system.descender ≠ 0 then face.adjusted .descender system.descender
    else do face.adjusted .windowDescender (← system.windowDescender)

/-- The gap between lines.  The header has none to tell where it lacks one of the other measures,
and neither has a system table that lacks both. -/
def lineGap (face : Face) : Except Overflow Int :=
  match face.systemTable with
  | none => .ok face.lines.lineGap
  | some system =>
    if system.prefersTypographic then face.adjusted .lineGap system.lineGap
    else if face.lines.ascender ≠ 0 ∧ face.lines.descender ≠ 0 then .ok face.lines.lineGap
    else if system.ascender = 0 ∧ system.descender = 0 then .ok 0
    else face.adjusted .lineGap system.lineGap

/-- The distance between lines in font units. -/
def lineUnits (face : Face) : Except Overflow Int := do
  return (← face.ascender) - (← face.descender) + (← face.lineGap)

/-! ## Measures -/

/-- The fault of a font whose face cannot be read. -/
def faultOf : FaceFault → FontFault
  | .overflow cause => .overflow cause
  | fault => .invalidData fault.message

/-- The measures of a font whose face is in a file. -/
def metrics (content : ByteArray) (index : Nat) (font : FontSpec) :
    Except FontFault FontMetrics := do
  let face ← (read content index).mapError faultOf
  let scale := font.pixelSize / Float.ofNat face.unitsPerEm
  match ← (face.glyph 'x').mapError FontFault.overflow with
  | none => .error (.missingGlyph font.family 'x')
  | some glyph =>
    let advance ← (face.advance glyph).mapError FontFault.overflow
    let lineUnits ← face.lineUnits.mapError FontFault.overflow
    return ⟨Rounding.nearest (Float.ofNat advance * scale),
      Rounding.nearest (Float.ofInt lineUnits * scale)⟩

end Face

end FigureForm
