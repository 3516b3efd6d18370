/-
# The entries of matrices

A matrix stores its entries plane after plane and row after row.  Read back by row, column and plane
they stand where they stood in the rows, or in the rows of pixels, that the matrix was made of.  Rows
make a matrix exactly when they have one length, and pixels when they have one length as well.
-/

import FigureForm.Record.Matrix

namespace FigureForm

/-- Whether all rows have so many cells. -/
def EvenRows {α : Type} (columns : Nat) (rows : List (List α)) : Prop :=
  ∀ row ∈ rows, row.length = columns

section Flatten

variable {α : Type} {rows : List (List α)} {columns : Nat}

theorem length_flatten_of_even (even : EvenRows columns rows) :
    rows.flatten.length = rows.length * columns := by
  induction rows with
  | nil => simp
  | cons row rest ih =>
    rw [List.flatten_cons, List.length_append,
      ih fun later member => even later (List.mem_cons_of_mem _ member),
      even row List.mem_cons_self, List.length_cons, Nat.succ_mul, Nat.add_comm]

/-- In rows of one length that stand one after the other, a cell is found by counting. -/
theorem flatten_getElem?_of_even (even : EvenRows columns rows) {column : Nat}
    (inRow : column < columns) (row : Nat) :
    rows.flatten[row * columns + column]? = rows[row]?.bind (·[column]?) := by
  induction rows generalizing row with
  | nil => simp
  | cons first rest ih =>
    have length : first.length = columns := even first List.mem_cons_self
    rw [List.flatten_cons]
    cases row with
    | zero =>
      rw [List.getElem?_append_left (by omega), Nat.zero_mul, Nat.zero_add]
      rfl
    | succ row =>
      have behind : (row + 1) * columns + column - first.length = row * columns + column := by
        rw [Nat.succ_mul]
        omega
      rw [List.getElem?_append_right (by rw [Nat.succ_mul]; omega), behind,
        ih (fun later member => even later (List.mem_cons_of_mem _ member)) row]
      rfl

end Flatten

namespace Matrix

/-- Every entry stands at some row, column and plane. -/
theorem getElem?_entries (m : Matrix) {place : Nat} (inside : place < m.entries.size) :
    m.entries[place]? = m.get? (place / m.columns % m.rows) (place % m.columns)
      (place / (m.columns * m.rows)) := by
  rw [m.size_entries, Nat.mul_comm m.rows] at inside
  have area : 0 < m.columns * m.rows := Nat.pos_of_mul_pos_right (Nat.zero_lt_of_lt inside)
  have columns : 0 < m.columns := Nat.pos_of_mul_pos_right area
  have rows : 0 < m.rows := Nat.pos_of_mul_pos_left area
  have offset_eq : m.offset (place / m.columns % m.rows) (place % m.columns)
      (place / (m.columns * m.rows)) = place := by
    calc m.offset (place / m.columns % m.rows) (place % m.columns) (place / (m.columns * m.rows))
        = m.columns * (m.rows * (place / m.columns / m.rows) + place / m.columns % m.rows) +
            place % m.columns := by
          rw [offset, Nat.div_div_eq_div_mul, Nat.mul_add]
          ac_rfl
      _ = place := by rw [Nat.div_add_mod, Nat.div_add_mod]
  rw [get?, if_pos ⟨Nat.mod_lt _ rows, Nat.mod_lt _ columns, Nat.div_lt_of_lt_mul inside⟩,
    offset_eq]

theorem get?_of_planes_le {m : Matrix} {row column plane : Nat} (beyond : m.planes ≤ plane) :
    m.get? row column plane = none :=
  if_neg fun inside => by omega

/-- Matrices of one shape with the same entries everywhere are the same. -/
theorem ext_get? {m n : Matrix} (rows : m.rows = n.rows) (columns : m.columns = n.columns)
    (planes : m.planes = n.planes)
    (entries : ∀ row column plane, m.get? row column plane = n.get? row column plane) : m = n := by
  have size : m.entries.size = n.entries.size := by
    rw [m.size_entries, n.size_entries, rows, columns, planes]
  have stored : m.entries = n.entries := by
    apply Array.ext_getElem?
    intro place
    by_cases inside : place < m.entries.size
    · rw [m.getElem?_entries inside, n.getElem?_entries (size ▸ inside), rows, columns, entries]
    · rw [Array.getElem?_eq_none (by omega), Array.getElem?_eq_none (by omega)]
  obtain ⟨_, _, _, _, _⟩ := m
  obtain ⟨_, _, _, _, _⟩ := n
  subst rows columns planes stored
  rfl

/-! ## Rows of numbers -/

section Rows

variable {rows : List (List Float)} {columns : Nat}

/-- The matrix of rows of one length. -/
def ofEvenRows (even : EvenRows columns rows) : Matrix where
  rows := rows.length
  columns := columns
  planes := 1
  entries := rows.flatten.toArray
  size_entries := by rw [List.size_toArray, length_flatten_of_even even, Nat.mul_one]

/-- The entries of a matrix of rows are the cells of the rows. -/
theorem get?_ofEvenRows (even : EvenRows columns rows) (row column : Nat) :
    (ofEvenRows even).get? row column 0 = rows[row]?.bind (·[column]?) := by
  unfold get? offset ofEvenRows
  dsimp only
  split
  next inside =>
    rw [Nat.zero_mul, Nat.zero_add, List.getElem?_toArray,
      flatten_getElem?_of_even even inside.2.1]
  next outside =>
    cases found : rows[row]? with
    | none => rfl
    | some cells =>
      obtain ⟨bound, rfl⟩ := List.getElem?_eq_some_iff.mp found
      have length := even rows[row] (List.getElem_mem bound)
      exact (List.getElem?_eq_none (by omega)).symm

/-- How long the first row is. -/
def firstColumns {α : Type} (rows : List (List α)) : Nat :=
  (rows.head?.getD []).length

theorem getD_map_length (rows : List (List Float)) :
    (rows.head?.map List.length).getD 0 = firstColumns rows := by
  cases rows <;> rfl

/-- Rows of one length are as long as the first. -/
theorem even_firstColumns {α : Type} {rows : List (List α)} (even : EvenRows columns rows) :
    EvenRows (firstColumns rows) rows := by
  cases rows with
  | nil => exact fun _ none => nomatch none
  | cons first rest =>
    intro row member
    exact (even row member).trans (even first List.mem_cons_self).symm

/-- Rows of one length make their matrix. -/
theorem ofRows?_of_even (even : EvenRows (firstColumns rows) rows) :
    ofRows? rows = some (ofEvenRows even) := by
  have entries : ofEntries? rows.length (firstColumns rows) 1 rows.flatten.toArray =
      some (ofEvenRows even) :=
    dif_pos (ofEvenRows even).size_entries
  have test : (rows.all fun row => row.length == firstColumns rows) = true := by
    simpa [EvenRows] using even
  unfold ofRows?
  dsimp only
  rw [getD_map_length, if_pos test, entries]

/-- Only rows of one length make a matrix. -/
theorem even_of_ofRows? {matrix : Matrix} (made : ofRows? rows = some matrix) :
    EvenRows (firstColumns rows) rows := by
  unfold ofRows? at made
  dsimp only at made
  rw [getD_map_length] at made
  split at made
  next even => simpa [EvenRows] using even
  next => cases made

theorem ofRows?_eq_some_iff {matrix : Matrix} :
    ofRows? rows = some matrix ↔
      ∃ even : EvenRows (firstColumns rows) rows, matrix = ofEvenRows even := by
  constructor
  · intro made
    have even := even_of_ofRows? made
    rw [ofRows?_of_even even] at made
    exact ⟨even, (Option.some.inj made).symm⟩
  · rintro ⟨even, rfl⟩
    exact ofRows?_of_even even

/-- Rows make a matrix exactly when they have one length. -/
theorem exists_ofRows?_iff :
    (∃ matrix, ofRows? rows = some matrix) ↔ ∃ columns, EvenRows columns rows := by
  constructor
  · rintro ⟨matrix, made⟩
    exact ⟨_, even_of_ofRows? made⟩
  · rintro ⟨columns, even⟩
    exact ⟨_, ofRows?_of_even (even_firstColumns even)⟩

end Rows

/-! ## Rows of pixels -/

section Pixels

variable {pixels : List (List (List Float))} {columns planes : Nat}

/-- Whether all rows have so many pixels and all pixels so many numbers. -/
def EvenPixels (columns planes : Nat) (pixels : List (List (List Float))) : Prop :=
  EvenRows columns pixels ∧ ∀ row ∈ pixels, EvenRows planes row

/-- The rows of one plane. -/
def planeRows (pixels : List (List (List Float))) (plane : Nat) : List (List Float) :=
  pixels.map fun row => row.map fun pixel => pixel.getD plane 0.0

theorem planarEntries_eq (planes : Nat) :
    planarEntries planes pixels =
      ((List.range planes).map fun plane => (planeRows pixels plane).flatten).flatten := by
  rw [planarEntries, List.flatMap_def]
  simp only [List.flatMap_def, planeRows]

theorem even_planeRows (even : EvenPixels columns planes pixels) (plane : Nat) :
    EvenRows columns (planeRows pixels plane) := by
  intro row member
  obtain ⟨cells, among, rfl⟩ := List.mem_map.mp member
  rw [List.length_map, even.1 cells among]

/-- Every plane has one number of each pixel. -/
theorem even_planes (even : EvenPixels columns planes pixels) :
    EvenRows (pixels.length * columns)
      ((List.range planes).map fun plane => (planeRows pixels plane).flatten) := by
  intro entries member
  obtain ⟨plane, _, rfl⟩ := List.mem_map.mp member
  rw [length_flatten_of_even (even_planeRows even plane), planeRows, List.length_map]

theorem length_planarEntries (even : EvenPixels columns planes pixels) :
    (planarEntries planes pixels).length = pixels.length * columns * planes := by
  rw [planarEntries_eq, length_flatten_of_even (even_planes even), List.length_map,
    List.length_range, Nat.mul_comm]

/-- The number of a pixel stands in its plane at the place of the pixel. -/
theorem planarEntries_getElem? (even : EvenPixels columns planes pixels) {row column plane : Nat}
    (inRows : row < pixels.length) (inRow : column < columns) (inPixel : plane < planes) :
    (planarEntries planes pixels)[plane * (pixels.length * columns) + (row * columns + column)]? =
      (pixels[row]?.bind (·[column]?)).bind (·[plane]?) := by
  have inPlane : row * columns + column < pixels.length * columns := rowByRow_lt inRows inRow
  have rowMember : pixels[row] ∈ pixels := List.getElem_mem inRows
  have inCells : column < pixels[row].length := by
    rw [even.1 pixels[row] rowMember]
    exact inRow
  have inNumbers : plane < (pixels[row][column]).length := by
    rw [even.2 pixels[row] rowMember _ (List.getElem_mem inCells)]
    exact inPixel
  rw [planarEntries_eq, flatten_getElem?_of_even (even_planes even) inPlane, List.getElem?_map,
    List.getElem?_range inPixel]
  show (planeRows pixels plane).flatten[row * columns + column]? = _
  rw [flatten_getElem?_of_even (even_planeRows even plane) inRow, planeRows, List.getElem?_map,
    List.getElem?_eq_getElem inRows]
  show (pixels[row].map fun pixel => pixel.getD plane 0.0)[column]? =
    (pixels[row][column]?).bind (·[plane]?)
  rw [List.getElem?_map, List.getElem?_eq_getElem inCells]
  show some ((pixels[row][column]).getD plane 0.0) = (pixels[row][column])[plane]?
  rw [List.getD_eq_getElem?_getD, List.getElem?_eq_getElem inNumbers]
  rfl

/-- The matrix of rows of one length of pixels of one length. -/
def ofEvenPixels (even : EvenPixels columns planes pixels) : Matrix where
  rows := pixels.length
  columns := columns
  planes := planes
  entries := (planarEntries planes pixels).toArray
  size_entries := by rw [List.size_toArray, length_planarEntries even]

/-- The entries of a matrix of pixels are the numbers of the pixels. -/
theorem get?_ofEvenPixels (even : EvenPixels columns planes pixels) (row column plane : Nat) :
    (ofEvenPixels even).get? row column plane =
      (pixels[row]?.bind (·[column]?)).bind (·[plane]?) := by
  unfold get? offset ofEvenPixels
  dsimp only
  split
  next inside =>
    rw [List.getElem?_toArray, Nat.add_assoc,
      planarEntries_getElem? even inside.1 inside.2.1 inside.2.2]
  next outside =>
    cases foundRow : pixels[row]? with
    | none => rfl
    | some cells =>
      obtain ⟨rowBound, isRow⟩ := List.getElem?_eq_some_iff.mp foundRow
      have rowMember : cells ∈ pixels := List.mem_of_getElem? foundRow
      have rowLength := even.1 cells rowMember
      show none = cells[column]?.bind (·[plane]?)
      cases foundPixel : cells[column]? with
      | none => rfl
      | some pixel =>
        obtain ⟨columnBound, _⟩ := List.getElem?_eq_some_iff.mp foundPixel
        have pixelLength := even.2 cells rowMember pixel (List.mem_of_getElem? foundPixel)
        exact (List.getElem?_eq_none (by omega)).symm

/-- How long the first pixel of the first row is. -/
def firstPlanes (pixels : List (List (List Float))) : Nat :=
  ((pixels.head?.getD []).head?.getD []).length

/-- Pixels of one length are as long as the first of the first row. -/
theorem even_firstPlanes (even : EvenPixels columns planes pixels) :
    EvenPixels (firstColumns pixels) (firstPlanes pixels) pixels := by
  refine ⟨even_firstColumns even.1, ?_⟩
  cases pixels with
  | nil => exact fun _ none => nomatch none
  | cons first rest =>
    intro row member pixel inRow
    -- A row with a pixel is not empty, and then neither is the first row.
    have some : 0 < first.length := by
      rw [even.1 first List.mem_cons_self, ← even.1 row member]
      exact List.length_pos_of_mem inRow
    cases first with
    | nil => cases some
    | cons firstPixel others =>
      exact (even.2 row member pixel inRow).trans
        (even.2 _ List.mem_cons_self firstPixel List.mem_cons_self).symm

/-- Pixels of one length in rows of one length make their matrix. -/
theorem ofPixels?_of_even (even : EvenPixels (firstColumns pixels) (firstPlanes pixels) pixels) :
    ofPixels? pixels = some (ofEvenPixels even) := by
  have entries : ofEntries? pixels.length (firstColumns pixels) (firstPlanes pixels)
      (planarEntries (firstPlanes pixels) pixels).toArray = some (ofEvenPixels even) :=
    dif_pos (ofEvenPixels even).size_entries
  have test : (pixels.all fun row => row.length == firstColumns pixels &&
      row.all fun pixel => pixel.length == firstPlanes pixels) = true := by
    simp only [List.all_eq_true, Bool.and_eq_true, beq_iff_eq]
    exact fun row member => ⟨even.1 row member, even.2 row member⟩
  exact (if_pos test).trans entries

/-- Only pixels of one length in rows of one length make a matrix. -/
theorem even_of_ofPixels? {matrix : Matrix} (made : ofPixels? pixels = some matrix) :
    EvenPixels (firstColumns pixels) (firstPlanes pixels) pixels := by
  unfold ofPixels? at made
  dsimp only at made
  split at made
  next test =>
    simp only [List.all_eq_true, Bool.and_eq_true, beq_iff_eq] at test
    exact ⟨fun row member => (test row member).1, fun row member => (test row member).2⟩
  next => cases made

theorem ofPixels?_eq_some_iff {matrix : Matrix} :
    ofPixels? pixels = some matrix ↔
      ∃ even : EvenPixels (firstColumns pixels) (firstPlanes pixels) pixels,
        matrix = ofEvenPixels even := by
  constructor
  · intro made
    have even := even_of_ofPixels? made
    rw [ofPixels?_of_even even] at made
    exact ⟨even, (Option.some.inj made).symm⟩
  · rintro ⟨even, rfl⟩
    exact ofPixels?_of_even even

/-- Rows of pixels make a matrix exactly when rows and pixels have one length each. -/
theorem exists_ofPixels?_iff :
    (∃ matrix, ofPixels? pixels = some matrix) ↔
      ∃ columns planes, EvenPixels columns planes pixels := by
  constructor
  · rintro ⟨matrix, made⟩
    exact ⟨_, _, even_of_ofPixels? made⟩
  · rintro ⟨columns, planes, even⟩
    exact ⟨_, ofPixels?_of_even (even_firstPlanes even)⟩

end Pixels

end Matrix

end FigureForm
