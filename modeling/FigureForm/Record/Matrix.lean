/-
# Dense numeric arrays

Arrays of numbers addressed by row, column and plane.  The entries are stored row by row within a
plane and plane after plane, and a matrix carries the fact that it has as many entries as its
dimensions say.  Rows and pixels of unequal length make no matrix.

Figures are loaded with `ofPixels?`, which knows no limit on sizes.  Storing pixels one after the
other into a buffer does (`ofPixelsByFilling`): it stops where the first row and its first pixel
call for more places than a 64-bit word counts.  Few pixels can do so if their lengths differ, and
then `ofPixels?` makes no matrix but does not stop.  Everywhere else the two make the same.
-/

namespace FigureForm

/-- A dense array of numbers with three dimensions. -/
structure Matrix where
  rows : Nat
  columns : Nat
  planes : Nat
  entries : Array Float
  size_entries : entries.size = rows * columns * planes

namespace Matrix

/-- Sizes of stored data are 64-bit words. -/
def sizeLimit : Nat := 0x10000000000000000

/-- The matrix with these dimensions and entries, if the entries are as many as they should be. -/
def ofEntries? (rows columns planes : Nat) (entries : Array Float) : Option Matrix :=
  if h : entries.size = rows * columns * planes then some ⟨rows, columns, planes, entries, h⟩
  else none

/-- The same under the limit on sizes, which already holds for one plane. -/
def sized? (rows columns planes : Nat) (entries : Array Float) : Option Matrix :=
  if rows * columns < sizeLimit ∧ rows * columns * planes < sizeLimit then
    ofEntries? rows columns planes entries
  else none

/-- The one-plane matrix with these rows; nothing when they differ in length. -/
def ofRows? (rows : List (List Float)) : Option Matrix :=
  let columns := (rows.head?.map List.length).getD 0
  if rows.all (fun row => row.length == columns) then
    ofEntries? rows.length columns 1 rows.flatten.toArray
  else none

/-- The entries of pixels in storage order: each plane takes its channel of all the pixels. -/
def planarEntries (planes : Nat) (pixels : List (List (List Float))) : List Float :=
  (List.range planes).flatMap fun plane =>
    pixels.flatMap fun row => row.map fun pixel => pixel.getD plane 0.0

/-- The matrix of rows of pixels with one channel for each plane; nothing when rows or pixels differ
in length. -/
def ofPixels? (pixels : List (List (List Float))) : Option Matrix :=
  let firstRow := pixels.head?.getD []
  let columns := firstRow.length
  let planes := (firstRow.head?.getD []).length
  let even := pixels.all fun row =>
    row.length == columns && row.all fun pixel => pixel.length == planes
  if even then ofEntries? pixels.length columns planes (planarEntries planes pixels).toArray
  else none

/-- Where the entry at a row, column and plane is stored. -/
def offset (m : Matrix) (row column plane : Nat) : Nat :=
  plane * (m.rows * m.columns) + row * m.columns + column

/-- The entry at a row, column and plane; nothing outside the matrix. -/
def get? (m : Matrix) (row column plane : Nat) : Option Float :=
  if row < m.rows ∧ column < m.columns ∧ plane < m.planes then
    m.entries[m.offset row column plane]?
  else none

/-- The entries of a single row or a single column. -/
def toVector? (m : Matrix) : Option (List Float) :=
  if m.planes = 1 ∧ (m.rows = 1 ∨ m.columns = 1) then some m.entries.toList else none

/-- Counted row by row, a cell comes before the end of the last row. -/
theorem rowByRow_lt {rows columns row column : Nat} (hrow : row < rows) (hcolumn : column < columns) :
    row * columns + column < rows * columns :=
  calc row * columns + column < (row + 1) * columns := by rw [Nat.succ_mul]; omega
    _ ≤ rows * columns := Nat.mul_le_mul_right _ hrow

/-- Every place inside the matrix is stored. -/
theorem offset_lt_size (m : Matrix) {row column plane : Nat} (hrow : row < m.rows)
    (hcolumn : column < m.columns) (hplane : plane < m.planes) :
    m.offset row column plane < m.entries.size := by
  rw [m.size_entries]
  have inRow : row * m.columns + column < m.rows * m.columns := rowByRow_lt hrow hcolumn
  have inPlane : (plane + 1) * (m.rows * m.columns) ≤ m.planes * (m.rows * m.columns) :=
    Nat.mul_le_mul_right _ hplane
  unfold offset
  rw [Nat.succ_mul] at inPlane
  rw [Nat.mul_comm (m.rows * m.columns)]
  omega

end Matrix

end FigureForm
