/-
# Tables of a font file

A font file is a directory of tagged tables, or a collection of such directories.  Opening one finds
the directory of a face; a table that reaches beyond the end of the file counts as missing.

With the modules for the single tables this is a parser of font files in the place of an outside
library, which is no part of the program: the rules, the limits and the order of the checks are
those of that library.
-/

import FigureForm.Bisection
import FigureForm.Font.Reading

namespace FigureForm

/-- Why bytes are no face that can be measured. -/
inductive FaceFault
  | unknownMagic
  | malformed
  | indexOutOfBounds
  | noHeader
  | noHorizontalHeader
  | noProfile
  | overflow (cause : Overflow)
  deriving DecidableEq, Repr

/-- What is said about such bytes. -/
def FaceFault.message : FaceFault → String
  | unknownMagic => "unknown magic"
  | malformed => "malformed font"
  | indexOutOfBounds => "face index is out of bounds"
  | noHeader => "the head table is missing or malformed"
  | noHorizontalHeader => "the hhea table is missing or malformed"
  | noProfile => "the maxp table is missing or malformed"
  | overflow cause => cause.message

/-- Where a table stands in a file. -/
structure TableRecord where
  tag : Nat
  start : Nat
  length : Nat

/-- A file and the directory of one of its faces. -/
structure FontFile where
  content : ByteArray
  records : List TableRecord

namespace FontFile

/-- The numbers that the directory of a face may begin with. -/
def faceMagics : List Nat :=
  [0x00010000, 0x4F54544F, 0x74727565]

/-- The number that a collection begins with. -/
def collectionMagic : Nat := 0x74746366

/-- The value, or the fault when there is none. -/
def orElseFault {α : Type} (value : Option α) (fault : FaceFault) : Except FaceFault α :=
  match value with
  | some value => .ok value
  | none => .error fault

/-- Where the directory of a face in a collection begins.  It lies behind the list of directories.
-/
def collectionStart (content : ByteArray) (index : Nat) : Except FaceFault Nat := do
  let count ← orElseFault (BigEndian.long? content 8) .malformed
  let listEnd := 12 + 4 * count
  if BigEndian.longLimit ≤ listEnd then .error (.overflow .extent)
  if content.size < listEnd then .error .malformed
  if count ≤ index then .error .indexOutOfBounds
  let start ← orElseFault (BigEndian.long? content (12 + 4 * index)) .malformed
  if start < listEnd ∨ content.size < start then .error .malformed
  let magic ← orElseFault (BigEndian.long? content start) .unknownMagic
  if magic ∈ faceMagics then .ok start else .error .unknownMagic

/-- Where the directory of a face begins. -/
def faceStart (content : ByteArray) (index : Nat) : Except FaceFault Nat :=
  match BigEndian.long? content 0 with
  | none => .error .unknownMagic
  | some magic =>
    if magic = collectionMagic then collectionStart content index
    else if magic ∈ faceMagics then
      if index = 0 then .ok 0 else .error .indexOutOfBounds
    else .error .unknownMagic

/-- A directory entry. -/
def readRecord? (content : ByteArray) (start : Nat) : Option TableRecord := do
  return ⟨← BigEndian.long? content start, ← BigEndian.long? content (start + 8),
    ← BigEndian.long? content (start + 12)⟩

/-- The directory of a face in a file. -/
def ofBytes (content : ByteArray) (index : Nat) : Except FaceFault FontFile := do
  let start ← faceStart content index
  let count ← orElseFault (BigEndian.word? content (start + 4)) .malformed
  let records ← orElseFault
    (if start + 12 + 16 * count ≤ content.size then
      (List.range count).mapM fun place => readRecord? content (start + 12 + 16 * place)
    else none)
    .malformed
  return ⟨content, records⟩

/-- The bytes of a table. -/
def tableAt? (file : FontFile) (record : TableRecord) : Option ByteArray :=
  if record.start + record.length ≤ file.content.size then
    some (file.content.extract record.start (record.start + record.length))
  else none

/-- The table with a tag; the last of several counts. -/
def table? (file : FontFile) (tag : Nat) : Option ByteArray := do
  file.tableAt? (← file.records.reverse.find? fun record => record.tag == tag)

/-- What is read from the table with a tag; nothing without such a table. -/
def read {α : Type} (file : FontFile) (tag : Nat) (part : ByteArray → Reading α) :
    Except Overflow (Option α) :=
  match file.table? tag with
  | some table => (part table).run
  | none => .ok none

/-- The table with a tag in a directory that is sorted by tags. -/
def sortedTable? (file : FontFile) (tag : Nat) : Option ByteArray := do
  let side := fun place => file.records[place]?.map fun record => compare record.tag tag
  let place ← Bisection.findLast? side file.records.length
  file.tableAt? (← file.records[place]?)

/-- The number of faces in a file.  A collection cannot hold more faces than bytes, whatever it
says. -/
def faceCount (content : ByteArray) : Nat :=
  if BigEndian.long? content 0 = some collectionMagic then
    min ((BigEndian.long? content 8).getD 1) content.size
  else 1

end FontFile

end FigureForm
