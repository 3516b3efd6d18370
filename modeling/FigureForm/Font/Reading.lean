/-
# Reading the parts of a table

A part of a table is read, or it is missing because the table ends in front of it.  A third outcome
is kept apart from these: places are numbers of four bytes, so a part that ends behind the last of
all places is an overflow, however long the table is.  It stops all reading, where a missing part
only leaves out what needs it.

A part of the parser that stands in the place of an outside library (see `Font.Tables`).
-/

import FigureForm.Bytes.BigEndian
import FigureForm.Overflow

namespace FigureForm

open BigEndian

/-- What is read from a table: a value, nothing, or the overflow that stops all reading. -/
abbrev Reading := OptionT (Except Overflow)

namespace Reading

/-- A value that is there or not. -/
def ofOption {α : Type} (value : Option α) : Reading α :=
  OptionT.mk (.ok value)

/-- The overflow that stops all reading. -/
def stop {α : Type} (cause : Overflow) : Reading α :=
  OptionT.mk (.error cause)

/-- The value of a computation that may overflow. -/
def ofExcept {α : Type} (value : Except Overflow α) : Reading α :=
  OptionT.mk (value.map some)

/-- Whether a place can be told at all. -/
def checkPlace (place : Nat) : Reading Unit :=
  if longLimit ≤ place then stop .extent else pure ()

/-- So many bytes at a place. -/
def bytes (table : ByteArray) (place length : Nat) : Reading ByteArray := do
  checkPlace (place + length)
  if place + length ≤ table.size then return table.extract place (place + length) else failure

/-- The number of so many bytes at a place. -/
def number (table : ByteArray) (place width : Nat) : Reading Nat := do
  return decode (← bytes table place width).data.toList

/-- The number with a sign of so many bytes at a place. -/
def signedNumber (table : ByteArray) (place width : Nat) : Reading Int := do
  return signed width (← number table place width)

/-- What a table holds from a place on. -/
def suffix (table : ByteArray) (place : Nat) : Reading ByteArray := do
  guard (place ≤ table.size)
  return table.extract place table.size

end Reading

end FigureForm
