/-
# Compact outlines

The two tables of outlines that share their parts: blocks in numbered lists, and settings that tell
where the lists are.  No measure of a font depends on their contents, so they are read only as far
as it takes to see that each part has a place in the file.

A part of the parser that stands in the place of an outside library (see `Font.Tables`).
-/

import FigureForm.Font.BlockList
import FigureForm.Font.Operation
import FigureForm.Font.Variations

namespace FigureForm

open BigEndian Reading

namespace CompactOutlines

/-- What the operators of settings tell. -/
inductive Setting
  | glyphNames
  | encoding
  | outlines
  | details
  | routines
  | store
  | matrix
  | collection
  | members
  | memberChoice

/-- The operator of a setting. -/
def Setting.operator : Setting → Nat
  | glyphNames => 15
  | encoding => 16
  | outlines => 17
  | details => 18
  | routines => 19
  | store => 24
  | matrix => 1207
  | collection => 1230
  | members => 1236
  | memberChoice => 1237

/-- The last operation for a setting. -/
def last? (operations : List Operation) (setting : Setting) : Option Operation :=
  Operation.last? operations setting.operator

/-- The place that is told by the last operation for a setting. -/
def place? (operations : List Operation) (setting : Setting) : Option Nat :=
  (last? operations setting).bind Operation.onlyPlace?

/-- Where the outlines are.  Each operation for them must tell a place, and the last one another
place than zero. -/
def outlinesPlace? (operations : List Operation) : Option Nat := do
  let chosen := operations.filter fun operation => operation.operator == Setting.outlines.operator
  let places ← chosen.mapM Operation.onlyPlace?
  let last ← places.getLast?
  if last = 0 then none else some last

/-- Whether the operands of each operation for a matrix are well formed, however many there are. -/
def matricesAreLegible (operations : List Operation) : Bool :=
  operations.all fun operation =>
    operation.operator != Setting.matrix.operator || operation.operands.isSome

/-- The list of blocks at a place that must lie in the table. -/
def blocksAt (table : ByteArray) (place countWidth : Nat) : Reading BlockList := do
  guard (place ≤ table.size)
  return (← BlockList.read table place countWidth).1

/-! ## The first table -/

/-- Whether ranges from a place on name as many glyphs as are left.  A range ends with the number of
further glyphs. -/
def rangesName (table : ByteArray) (place width left : Nat) : Bool :=
  if 0 < left then
    match read? table (place + 2) width with
    | some more => more + 1 ≤ left && rangesName table (place + 2 + width) width (left - (more + 1))
    | none => false
  else true
termination_by left
decreasing_by all_goals omega

/-- Checks the names of so many glyphs at a place.  The first glyph has none. -/
def checkNames (table : ByteArray) (place glyphCount : Nat) : Reading Unit := do
  match ← number table place 1 with
  | 0 => discard <| bytes table (place + 1) (2 * (glyphCount - 1))
  | 1 => guard (rangesName table (place + 1) 1 (glyphCount - 1))
  | 2 => guard (rangesName table (place + 1) 2 (glyphCount - 1))
  | _ => failure

/-- Checks the encoding at a place: codes or ranges of codes, and further codes behind them if the
format says so. -/
def checkEncoding (table : ByteArray) (place : Nat) : Reading Unit := do
  let format ← number table place 1
  guard (format % 128 ≤ 1)
  let length := (format % 128 + 1) * (← number table (place + 1) 1)
  discard <| bytes table (place + 2) length
  if format.testBit 7 then
    let count ← number table (place + 2 + length) 1
    discard <| bytes table (place + 3 + length) (3 * count)

/-- The routines that details at a range tell of: a list at a distance from the range. -/
def readRoutines (table : ByteArray) (start finish countWidth : Nat) (distance? : Option Nat) :
    Reading BlockList := do
  guard (finish ≤ table.size)
  let distance ← ofOption distance?
  blocksAt (← suffix table (start + distance)) 0 countWidth

/-- The settings in a range of a table. -/
def operationsIn (table : ByteArray) (start finish : Nat) : List Operation :=
  if finish ≤ table.size then Operation.listOf (table.extract start finish) else []

/-- The members of a collection: its glyphs must be named by a list of their own. -/
def readMembers (table : ByteArray) (operations : List Operation) : Reading BlockList := do
  let names ← ofOption (place? operations .glyphNames)
  let members ← ofOption (place? operations .members)
  discard <| ofOption (place? operations .memberChoice)
  guard (2 < names)
  blocksAt table members 2

/-- The routines of a single set of outlines, which has an encoding. -/
def readSingle (table : ByteArray) (operations : List Operation) : Reading BlockList := do
  match place? operations .encoding with
  | some place => if 1 < place then checkEncoding table place
  | none => pure ()
  let (start, finish) ← ofOption ((last? operations .details).bind Operation.onlyRange?)
  readRoutines table start finish 2 (place? (operationsIn table start finish) .routines)

/-- The first table: a list of names, of which only the end counts, and one block of settings; then
texts and routines, and the outlines at their place. -/
def read (table : ByteArray) : Reading BlockList := do
  guard ((← number table 0 1) = 1)
  let headerLength ← number table 2 1
  let (settings, textsStart) ←
    BlockList.read table (← BlockList.skip table (max 4 headerLength) 2) 2
  let operations := Operation.listOf (← ofOption (settings.block? 0))
  guard (matricesAreLegible operations)
  let outlinesStart ← ofOption (outlinesPlace? operations)
  let (_, routinesStart) ← BlockList.read table textsStart 2
  discard <| BlockList.read table routinesStart 2
  let outlines ← blocksAt table outlinesStart 2
  guard (0 < outlines.length)
  match place? operations .glyphNames with
  | some place => if 2 < place then checkNames table place outlines.length
  | none => pure ()
  if (last? operations .collection).isSome then readMembers table operations
  else readSingle table operations

/-! ## The second table -/

/-- The routines that a block of settings tells of, by way of the details that it tells of. -/
def readMemberRoutines (table member : ByteArray) : Reading (Option BlockList) := do
  let first? (operations : List Operation) (setting : Setting) :=
    operations.find? fun operation => operation.operator == setting.operator
  match (first? (Operation.listOf member) .details).bind Operation.onlyRange? with
  | none => return none
  | some (start, finish) =>
    guard (finish ≤ table.size)
    let details := Operation.listOf (table.extract start finish)
    match (first? details .routines).bind Operation.onlyPlace? with
    | none => return none
    | some distance => return some (← blocksAt (← suffix table (start + distance)) 0 4)

/-- The routines of the first block that tells of any. -/
def readFirstRoutines (table : ByteArray) : (members : List ByteArray) → Reading Unit
  | [] => pure ()
  | member :: members => do
    if (← readMemberRoutines table member).isNone then readFirstRoutines table members

/-- The place of a store of variations, behind its length. -/
def checkStore (table : ByteArray) (operations : List Operation) : Reading Unit := do
  match place? operations .store with
  | some place =>
    guard (place ≤ table.size)
    discard <| VariationStore.read table (place + 2)
  | none => pure ()

/-- The second table: settings and routines; outlines, variations and members at their places. -/
def readVariable (table : ByteArray) : Reading Unit := do
  guard ((← number table 0 1) = 2)
  let settingsStart := max 5 (← number table 2 1)
  let settingsLength ← number table 3 2
  let operations := Operation.listOf (← bytes table settingsStart settingsLength)
  let outlinesStart ← ofOption (outlinesPlace? operations)
  discard <| BlockList.read table (settingsStart + settingsLength) 4
  discard <| blocksAt table outlinesStart 4
  checkStore table operations
  match place? operations .members with
  | some place => readFirstRoutines table (← blocksAt table place 4).toList
  | none => pure ()

end CompactOutlines

end FigureForm
