/-
# Lists of blocks

Blocks of bytes stand one behind the other, and in front of them their number and the offsets at
which they begin.  A list is read with its blocks, or skipped without a look at them.

A part of the parser that stands in the place of an outside library (see `Font.Tables`).
-/

import FigureForm.Font.Reading

namespace FigureForm

open BigEndian Reading

/-- Blocks of bytes one behind the other.  The offsets tell where each begins and where the last one
ends, counted from one. -/
structure BlockList where
  offsets : ByteArray
  width : Nat
  content : ByteArray

namespace BlockList

/-- No blocks. -/
def empty : BlockList :=
  ⟨.empty, 1, .empty⟩

/-- The number of blocks. -/
def length (blocks : BlockList) : Nat :=
  blocks.offsets.size / blocks.width - 1

/-- Where a block begins. -/
def start? (offsets : ByteArray) (width index : Nat) : Option Nat := do
  let offset ← read? offsets (width * index) width
  if offset = 0 then none else some (offset - 1)

/-- A block. -/
def block? (blocks : BlockList) (index : Nat) : Option ByteArray := do
  let start ← start? blocks.offsets blocks.width index
  let finish ← start? blocks.offsets blocks.width (index + 1)
  if start ≤ finish ∧ finish ≤ blocks.content.size then some (blocks.content.extract start finish)
  else none

/-- The blocks up to the first that is malformed. -/
def toList (blocks : BlockList) : List ByteArray :=
  ((List.range blocks.length).map blocks.block?).takeWhile Option.isSome |>.filterMap id

/-- The offsets of the list at a place, whose count has so many bytes, and the place of its blocks
with their length.  Without blocks there are no offsets, and if the last offset is malformed there
are no blocks. -/
def readOffsets (table : ByteArray) (place countWidth : Nat) : Reading (BlockList × Nat × Nat) := do
  let count ← number table place countWidth
  let start := place + countWidth
  if count = 0 ∨ count = longLimit - 1 then return (empty, start, 0)
  let width ← number table start 1
  let size := (count + 1) * width
  guard (1 ≤ width ∧ width ≤ 4 ∧ size < longLimit)
  let offsets ← bytes table (start + 1) size
  match start? offsets width count with
  | some length => return (⟨offsets, width, .empty⟩, start + 1 + size, length)
  | none => return (empty, start + 1 + size, 0)

/-- Where the list at a place ends.  Its blocks are not looked at. -/
def skip (table : ByteArray) (place countWidth : Nat) : Reading Nat := do
  let (_, start, length) ← readOffsets table place countWidth
  return start + length

/-- The list at a place and where it ends. -/
def read (table : ByteArray) (place countWidth : Nat) : Reading (BlockList × Nat) := do
  let (blocks, start, length) ← readOffsets table place countWidth
  return (⟨blocks.offsets, blocks.width, ← bytes table start length⟩, start + length)

end BlockList

end FigureForm
