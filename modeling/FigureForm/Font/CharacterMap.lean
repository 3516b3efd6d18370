/-
# Character maps

Which glyph a face has for a character.  A character map is a list of subtables, each for a
platform, an encoding and a format of its own; the first Unicode subtable that has a glyph
decides.

A part of the parser that stands in the place of an outside library (see `Font.Tables`).
-/

import FigureForm.Bisection
import FigureForm.Bytes.BigEndian
import FigureForm.Overflow

namespace FigureForm.CharacterMap

open BigEndian

/-- The glyph of a code in segments with deltas.  A segment holds its delta, or the distance to a
list of glyphs in which a zero stands for no glyph. -/
def segmentGlyph? (table : ByteArray) (code : Nat) : Option Nat := do
  let segments := (← word? table 6) / 2
  let startAt := fun segment => word? table (16 + 2 * segments + 2 * segment)
  let offsetPlace := fun segment => 16 + 6 * segments + 2 * segment
  let side := fun segment => do
    let last ← word? table (14 + 2 * segment)
    if last < code then return .lt else return if code < (← startAt segment) then .gt else .eq
  let segment ← Bisection.find? side 0 segments
  let start ← startAt segment
  let delta ← word? table (16 + 4 * segments + 2 * segment)
  let offset ← word? table (offsetPlace segment)
  if offset = 0 then some ((code + delta) % wordLimit)
  else if offset = 0xFFFF ∨ wordLimit ≤ 2 * (code - start) then none
  else
    let glyph ← word? table ((offsetPlace segment + 2 * (code - start) + offset) % wordLimit)
    let shifted := (glyph + delta) % wordLimit
    if glyph = 0 ∨ wordLimit ≤ 2 * shifted then none else some shifted

/-- The glyph of a code in a trimmed list. -/
def trimmedGlyph? (table : ByteArray) (code : Nat) : Option Nat := do
  let first ← word? table 6
  let count ← word? table 8
  if first ≤ code ∧ code < first + count then word? table (10 + 2 * (code - first)) else none

/-- The glyph of a code in a trimmed list with wide codes. -/
def wideTrimmedGlyph? (table : ByteArray) (code : Nat) : Option Nat := do
  let first ← long? table 12
  let count ← long? table 16
  if first ≤ code ∧ code < first + count then word? table (20 + 2 * (code - first)) else none

/-- The side on which a group of codes lies.  Its first code is looked at first. -/
def groupSide? (table : ByteArray) (code group : Nat) : Option Ordering := do
  let first ← long? table (16 + 12 * group)
  let last ← long? table (20 + 12 * group)
  return if code < first then .gt else if last < code then .lt else .eq

/-- The glyph of a code in sorted groups, whose glyphs ascend with their codes. -/
def groupGlyph? (table : ByteArray) (code : Nat) : Option Nat := do
  let group ← Bisection.findLast? (groupSide? table code) (← long? table 12)
  let start ← long? table (16 + 12 * group)
  let glyph := (← long? table (24 + 12 * group)) + code
  if glyph < longLimit ∧ glyph - start < wordLimit then some (glyph - start) else none

/-- The glyph of a code in groups of codes that share a glyph. -/
def sharedGlyph? (table : ByteArray) (code : Nat) : Option Nat := do
  let group ← (List.range (← long? table 12)).find? fun group =>
    groupSide? table code group == some .eq
  let glyph ← long? table (24 + 12 * group)
  if glyph < wordLimit then some glyph else none

/-- A list of all single-byte codes; a zero stands for no glyph. -/
def byteGlyph? (table : ByteArray) (code : Nat) : Option Nat := do
  let glyph ← read? table (6 + code) 1
  if glyph = 0 then none else some glyph

/-- The number of ranges of low bytes in a mixed subtable.  Keys tell the range for each high byte
in steps of eight. -/
def rangeCount? (table : ByteArray) : Option Nat := do
  let keys ← (List.range 256).mapM fun high => word? table (6 + 2 * high)
  return keys.foldl (fun most key => max most (key / 8)) 0 + 1

/-- The glyph of a code of one or two bytes.  The codes below 255 belong to the first range; the
others to the range of their high byte.  A range holds a delta and the distance to a list of glyphs
in which a zero stands for no glyph. -/
def mixedGlyph? (table : ByteArray) (code : Nat) : Option Nat := do
  if wordLimit ≤ code then none
  let range ← if code < 255 then some 0 else (word? table (6 + 2 * (code / 256))).map (· / 8)
  let place := 518 + 8 * range
  let first ← word? table place
  let finish := first + (← word? table (place + 2))
  let delta ← signedWord? table (place + 4)
  let offset ← word? table (place + 6)
  if wordLimit ≤ finish ∨ code % 256 < first ∨ finish ≤ code % 256 then none
  let glyph ← word? table (place + 6 + offset + 2 * (code % 256 - first))
  let shifted := (glyph + delta).tmod wordLimit
  if glyph = 0 ∨ shifted < 0 then none else some shifted.toNat

/-! ## Subtables -/

/-- A subtable for a platform and an encoding. -/
structure Subtable where
  platform : Nat
  encoding : Nat
  format : Nat
  content : ByteArray

namespace Subtable

/-- The subtable that the record at a place of a character map tells of. -/
def read? (table : ByteArray) (place : Nat) : Option Subtable := do
  let platform ← word? table place
  let encoding ← word? table (place + 2)
  let start ← long? table (place + 4)
  if 4 < platform ∨ table.size < start then none
  let content := table.extract start table.size
  return ⟨platform, encoding, ← word? content 0, content⟩

/-- The length that a subtable has by its own account; nothing for unknown formats. -/
def length? (subtable : Subtable) : Option Nat :=
  match subtable.format with
  | 0 => some 262
  | 2 => (rangeCount? subtable.content).map fun count => 518 + 8 * count
  | 4 => do
    let double ← word? subtable.content 6
    if double < 2 then none else some (16 + 8 * (double / 2))
  | 6 => (word? subtable.content 8).map fun count => 10 + 2 * count
  | 8 => some 2
  | 10 => (long? subtable.content 16).map fun count => 20 + 2 * count
  | 12 | 13 => (long? subtable.content 12).map fun count => 16 + 12 * count
  | 14 => (long? subtable.content 6).map fun count => 10 + 11 * count
  | _ => none

/-- Whether a subtable has all its parts. -/
def isWhole (subtable : Subtable) : Except Overflow Bool :=
  match subtable.length? with
  | none => .ok false
  | some length =>
    if longLimit ≤ length then .error .extent else .ok (length ≤ subtable.content.size)

/-- Whether a subtable maps Unicode characters. -/
def isUnicode (subtable : Subtable) : Bool :=
  subtable.platform == 0 || (subtable.platform == 3 && (subtable.encoding == 1 ||
    (subtable.encoding == 10 && (subtable.format == 12 || subtable.format == 13))))

/-- The glyph of a code in a subtable.  The formats that are not listed hold no glyphs of single
characters. -/
def glyph? (subtable : Subtable) (code : Nat) : Option Nat :=
  match subtable.format with
  | 0 => byteGlyph? subtable.content code
  | 2 => mixedGlyph? subtable.content code
  | 4 => segmentGlyph? subtable.content code
  | 6 => trimmedGlyph? subtable.content code
  | 10 => wideTrimmedGlyph? subtable.content code
  | 12 => groupGlyph? subtable.content code
  | 13 => sharedGlyph? subtable.content code
  | _ => none

end Subtable

/-- The glyph of a code in the subtables from a place on, of which there are `more`.  A subtable
that is cut off ends the search. -/
def glyphFrom (table : ByteArray) (code : Nat) :
    (more : Nat) → (place : Nat) → Except Overflow (Option Nat)
  | 0, _ => .ok none
  | more + 1, place => do
    match Subtable.read? table place with
    | none => return none
    | some subtable =>
      if !(← subtable.isWhole) then return none
      match if subtable.isUnicode then subtable.glyph? code else none with
      | some glyph => return some glyph
      | none => glyphFrom table code more (place + 8)

/-- The glyph of a code in a character map. -/
def glyph (table : ByteArray) (code : Nat) : Except Overflow (Option Nat) :=
  match word? table 2 with
  | none => .ok none
  | some count => if table.size < 4 + 8 * count then .ok none else glyphFrom table code count 4

end FigureForm.CharacterMap
