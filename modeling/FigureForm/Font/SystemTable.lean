/-
# System tables

The table in which a face describes itself to an operating system: how heavy, how wide and how
slanted it is, and vertical measures beside those of its horizontal header.

A part of the parser that stands in the place of an outside library (see `Font.Tables`).
-/

import FigureForm.Bytes.BigEndian
import FigureForm.Overflow

namespace FigureForm

/-- How the letters of a face lean. -/
inductive Slant
  | upright
  | oblique
  | italic
  deriving DecidableEq, Repr

/-- A system table of a known version. -/
structure SystemTable where
  version : Nat
  content : ByteArray

namespace SystemTable

open BigEndian

/-- The length that a system table of a version has at least. -/
def minimumLength? : Nat → Option Nat
  | 0 => some 78
  | 1 => some 86
  | 2 | 3 | 4 => some 96
  | 5 => some 100
  | _ => none

/-- A system table of sufficient length. -/
def ofBytes? (content : ByteArray) : Option SystemTable := do
  let version ← word? content 0
  let length ← minimumLength? version
  if length ≤ content.size then some ⟨version, content⟩ else none

/-- The number at a place. -/
def word (table : SystemTable) (place : Nat) : Nat :=
  (word? table.content place).getD 0

/-- The number with a sign at a place. -/
def signedWord (table : SystemTable) (place : Nat) : Int :=
  (signedWord? table.content place).getD 0

/-- How heavy the face is; 400 is regular. -/
def weight (table : SystemTable) : Nat :=
  table.word 4

/-- How wide the face is, from one to nine.  Five is regular, and numbers beyond these count as
five. -/
def width (table : SystemTable) : Nat :=
  if 1 ≤ table.word 6 ∧ table.word 6 ≤ 9 then table.word 6 else 5

/-- Whether a flag of the face is set. -/
def hasFlag (table : SystemTable) (flag : Nat) : Bool :=
  (table.word 62).testBit flag

/-- How the face leans.  Tables before the fourth version have no flag for oblique faces. -/
def slant (table : SystemTable) : Slant :=
  if table.hasFlag 0 then .italic
  else if 4 ≤ table.version ∧ table.hasFlag 9 then .oblique
  else .upright

/-- Whether the typographic measures go before those of the horizontal header. -/
def prefersTypographic (table : SystemTable) : Bool :=
  4 ≤ table.version && table.hasFlag 7

/-- The typographic ascender. -/
def ascender (table : SystemTable) : Int :=
  table.signedWord 68

/-- The typographic descender. -/
def descender (table : SystemTable) : Int :=
  table.signedWord 70

/-- The typographic gap between lines. -/
def lineGap (table : SystemTable) : Int :=
  table.signedWord 72

/-- The height above which a window clips the letters. -/
def windowAscender (table : SystemTable) : Int :=
  table.signedWord 74

/-- The height below which a window clips the letters.  The table counts it downwards, and the
least number has no opposite of its width. -/
def windowDescender (table : SystemTable) : Except Overflow Int :=
  if table.signedWord 76 = -0x8000 then .error .negation else .ok (-table.signedWord 76)

end SystemTable

end FigureForm
