/-
# Styles of faces

How heavy, wide and slanted a face is, and how far that is from a regular face.  Among faces of one
family the width decides first, then the slant, then the weight.

A part of the font database that stands in the place of an outside library (see `Font.Database`).
-/

import FigureForm.Font.SystemTable
import FigureForm.Font.Tables

namespace FigureForm

/-- How a face differs from others of its family. -/
structure FaceStyle where
  width : Nat
  slant : Slant
  weight : Nat
  deriving DecidableEq, Repr

namespace FaceStyle

/-- The style of a face that does not describe itself. -/
def regular : FaceStyle :=
  ⟨5, .upright, 400⟩

/-- Whether a table for printers calls a face italic: by any angle but zero, and also by none. -/
def anglesLetters (table : ByteArray) : Bool :=
  BigEndian.long? table 4 != some 0

/-- The style that the tables of a face describe. -/
def read (file : FontFile) : FaceStyle :=
  let described := match (file.sortedTable? 0x4F532F32).bind SystemTable.ofBytes? with
    | some table => ⟨table.width, table.slant, table.weight⟩
    | none => regular
  if described.slant = .upright ∧ (file.sortedTable? 0x706F7374).any anglesLetters then
    { described with slant := .italic }
  else described

/-! ## Distances -/

/-- The rank of a width: regular, then narrower faces, then wider ones, the nearest first. -/
def widthRank (width : Nat) : Nat :=
  if width ≤ 5 then 5 - width else width

/-- The rank of a slant. -/
def slantRank : Slant → Nat
  | .upright => 0
  | .oblique => 1
  | .italic => 2

/-- The rank of a weight: regular, then medium, then lighter faces, then heavier ones, the nearest
first. -/
def weightRank (weight : Nat) : Nat :=
  if weight = 400 then 0
  else if weight = 500 then 1
  else if weight < 400 then 402 - weight
  else weight + 2

/-- How far a style is from a regular one, the most important rank first. -/
def distance (style : FaceStyle) : List Nat :=
  [widthRank style.width, slantRank style.slant, weightRank style.weight]

end FaceStyle

end FigureForm
